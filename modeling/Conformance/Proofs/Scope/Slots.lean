import Conformance.Outline
import Mathlib.Data.List.Nodup
import Mathlib.Tactic.Lemma

/-!
# Slots

Which slots the bindings of a function get, and why 32 bits are enough for them.

* **Checked numbering** (`functionScope?`): the numbering once more, with every step of its
  arithmetic checked, so that it fails where a slot or the counter would leave 32 bits.
* **One body** (`Body.number?_eq_some`, `Body.map_entry_bindings_number`): the induction is on the
  body, for every value of the counter, because a block hands the counter on to what follows it.
* **Mirror** (`Scope.toBody`): a scope without its slots is what the program wrote.
* **Programs** (`Outline.scopes_ofItems`): the scopes of an outline are those of its definitions.
* **Main statement** (`functionScope_slots`): within the limits nothing overflows, parameters get
  `-1, -2, …`, locals get `0, 1, …`, and every function of a program starts afresh.
-/

namespace Conformance

/-! ## Checked arithmetic -/

/-- The slot of a value, if 32 bits hold the value. -/
def slot? (value : Int) : Option Int32 :=
  if -2147483648 ≤ value ∧ value ≤ 2147483647 then some (Int32.ofInt value) else none

/-- A slot that stands for a value is the slot of that value. -/
lemma slot?_eq_some {slot : Int32} {value : Int} (h : slot.toInt = value) :
    slot? value = some slot := by
  have hleast := Int32.le_toInt slot
  have hgreatest := Int32.toInt_lt slot
  subst h
  unfold slot?
  rw [if_pos (by omega), Int32.ofInt_toInt]

/-- The slot one stands for one. -/
lemma toInt_one : (1 : Int32).toInt = 1 := by
  decide

/-- Below the greatest value, adding one is exact. -/
lemma toInt_add_one {next : Int32} (h : next.toInt < 2147483647) :
    (next + 1).toInt = next.toInt + 1 := by
  have hleast := Int32.le_toInt next
  rw [Int32.toInt_add, toInt_one]
  exact Int.bmod_eq_of_le (by omega) (by omega)

/-- A position that 32 bits hold is converted exactly. -/
lemma toInt_ofNat {index : Nat} (h : index < 2147483648) : (Int32.ofNat index).toInt = index := by
  rw [Int32.toInt_ofNat']
  exact Int.bmod_eq_of_le (by simp [Int32.size]) (by simp [Int32.size]; omega)

/-- The negative of a position that 32 bits hold is exact. -/
lemma toInt_neg_ofNat {index : Nat} (h : index < 2147483648) :
    (-Int32.ofNat index).toInt = -index := by
  rw [Int32.toInt_neg, toInt_ofNat h]
  exact Int.bmod_eq_of_le (by omega) (by omega)

/-- The slots of parameters count down from minus one. -/
lemma toInt_parameterSlot {index : Nat} (h : index < 2147483648) :
    (parameterSlot index).toInt = -(index + 1) := by
  unfold parameterSlot
  have hexact : -(index : Int) - 1 = -(index + 1) := by omega
  rw [Int32.toInt_sub, toInt_neg_ofNat h, toInt_one, hexact]
  exact Int.bmod_eq_of_le (by omega) (by omega)

/-! ## Checked numbering -/

/-- The slot of the parameter at position `index`, with every step checked: the conversion of the
position, its negative, and the subtraction. -/
def parameterSlot? (index : Nat) : Option Int32 := do
  let position ← slot? index
  let negative ← slot? (-position.toInt)
  slot? (negative.toInt - 1)

/-- The numbering of a body with every step of the counter checked. -/
def Body.number? : Body → Int32 → Option (Scope × Int32)
  | done, next => some (.empty, next)
  | declare first rest, next => do
    let after ← slot? (next.toInt + 1)
    let (scope, free) ← rest.number? after
    return (.binding ⟨first.name, first.type, next⟩ scope, free)
  | block inner rest, next => do
    let (innerScope, afterInner) ← inner.number? next
    let (scope, free) ← rest.number? afterInner
    return (.nested innerScope scope, free)

/-- A scope with checked parameters from position `index` on put before its items. -/
def Scope.withParameters? : List Declaration → (index : Nat) → Scope → Option Scope
  | [], _, scope => some scope
  | param :: params, index, scope => do
    let slot ← parameterSlot? index
    let rest ← scope.withParameters? params (index + 1)
    return .binding ⟨param.name, param.type, slot⟩ rest

/-- The scope of a function, if no slot and no step of the counter leaves 32 bits. -/
def functionScope? (params : List Declaration) (body : Body) : Option Scope := do
  let (scope, _) ← body.number? 0
  scope.withParameters? params 0

/-- Every position that 32 bits hold gives a parameter its slot. -/
lemma parameterSlot?_eq_some {index : Nat} (h : index < 2147483648) :
    parameterSlot? index = some (parameterSlot index) := by
  unfold parameterSlot?
  rw [slot?_eq_some (toInt_ofNat h)]
  change (slot? (-(Int32.ofNat index).toInt)).bind _ = _
  rw [slot?_eq_some (show (-Int32.ofNat index).toInt = _ by rw [toInt_neg_ofNat h, toInt_ofNat h])]
  change slot? ((-Int32.ofNat index).toInt - 1) = _
  apply slot?_eq_some
  rw [toInt_parameterSlot h, toInt_neg_ofNat h]
  omega

namespace Body

/-- After a body the counter has moved by the number of its locals, if there is room for them. -/
lemma toInt_number_snd (body : Body) {next : Int32}
    (h : next.toInt + body.locals.length ≤ 2147483647) :
    (body.number next).2.toInt = next.toInt + body.locals.length := by
  induction body generalizing next with
  | done => simp [number, locals]
  | declare first rest ih =>
      simp only [locals, List.length_cons] at h ⊢
      have hnext : (next + 1).toInt = next.toInt + 1 := toInt_add_one (by omega)
      have hrest := @ih (next + 1) (by omega)
      simp only [number]
      omega
  | block inner rest ihInner ihRest =>
      simp only [locals, List.length_append] at h ⊢
      have hinner := @ihInner next (by omega)
      have hrest := @ihRest (inner.number next).2 (by omega)
      simp only [number]
      omega

/-- Within 32 bits the checked numbering of a body succeeds, and it is the numbering. -/
lemma number?_eq_some (body : Body) {next : Int32}
    (h : next.toInt + body.locals.length ≤ 2147483647) :
    body.number? next = some (body.number next) := by
  induction body generalizing next with
  | done => rfl
  | declare first rest ih =>
      simp only [locals, List.length_cons] at h
      have hnext : (next + 1).toInt = next.toInt + 1 := toInt_add_one (by omega)
      rw [number?, slot?_eq_some hnext]
      change (rest.number? (next + 1)).bind _ = _
      rw [ih (by omega)]
      rfl
  | block inner rest ihInner ihRest =>
      simp only [locals, List.length_append] at h
      have hinner := @toInt_number_snd inner next (by omega)
      rw [number?, ihInner (by omega)]
      change (rest.number? (inner.number next).2).bind _ = _
      rw [ihRest (by omega)]
      rfl

end Body

/-- Up to 2147483648 parameters are numbered without leaving 32 bits. -/
lemma Scope.withParameters?_eq_some (scope : Scope) (params : List Declaration) {index : Nat}
    (h : index + params.length ≤ 2147483648) :
    scope.withParameters? params index = some (scope.withParameters params index) := by
  induction params generalizing index with
  | nil => rfl
  | cons param params ih =>
      rw [List.length_cons] at h
      rw [withParameters?, parameterSlot?_eq_some (by omega)]
      change (scope.withParameters? params (index + 1)).bind _ = _
      rw [ih (by omega)]
      rfl

/-! ## Which slots -/

/-- What a binding declares, with the value of its slot. -/
def Binding.entry (binding : Binding) : Declaration × Int :=
  (⟨binding.name, binding.type⟩, binding.slot.toInt)

/-- The locals of a body get consecutive slots from the counter on, across all of its blocks. -/
lemma Body.map_entry_bindings_number (body : Body) {next : Int32}
    (h : next.toInt + body.locals.length ≤ 2147483647) :
    (body.number next).1.bindings.map Binding.entry =
      body.locals.mapIdx fun index declared => (declared, next.toInt + index) := by
  induction body generalizing next with
  | done => rfl
  | declare first rest ih =>
      simp only [locals, List.length_cons] at h
      have hnext : (next + 1).toInt = next.toInt + 1 := toInt_add_one (by omega)
      have hshift : (fun (index : Nat) (declared : Declaration) =>
          (declared, (next + 1).toInt + index)) =
          fun index declared => (declared, next.toInt + ((index + 1 : Nat) : Int)) := by
        funext index declared
        rw [hnext, Prod.mk.injEq]
        exact ⟨rfl, by omega⟩
      simp only [number, Scope.bindings, locals, List.map_cons, List.mapIdx_cons]
      rw [ih (by omega), hshift]
      simp [Binding.entry]
  | block inner rest ihInner ihRest =>
      simp only [locals, List.length_append] at h
      have hinner := @toInt_number_snd inner next (by omega)
      have hshift : (fun (index : Nat) (declared : Declaration) =>
          (declared, (inner.number next).2.toInt + index)) =
          fun index declared =>
            (declared, next.toInt + ((index + inner.locals.length : Nat) : Int)) := by
        funext index declared
        rw [hinner, Prod.mk.injEq]
        exact ⟨rfl, by omega⟩
      simp only [number, Scope.bindings, locals, List.map_append, List.mapIdx_append]
      rw [ihInner (by omega), ihRest (by omega), hshift]

/-- Parameters stand before the items of the scope and get consecutive slots downwards. -/
lemma Scope.map_entry_bindings_withParameters (scope : Scope) (params : List Declaration)
    {index : Nat} (h : index + params.length ≤ 2147483648) :
    (scope.withParameters params index).bindings.map Binding.entry =
      (params.mapIdx fun offset param => (param, -((index + offset : Nat) + 1 : Int))) ++
        scope.bindings.map Binding.entry := by
  induction params generalizing index with
  | nil => rfl
  | cons param params ih =>
      rw [List.length_cons] at h
      have hshift : (fun (offset : Nat) (param : Declaration) =>
          (param, -((index + 1 + offset : Nat) + 1 : Int))) =
          fun offset param => (param, -((index + (offset + 1) : Nat) + 1 : Int)) := by
        funext offset param
        rw [Nat.add_right_comm, Nat.add_assoc]
      simp only [withParameters, bindings, List.map_cons, List.mapIdx_cons, List.cons_append]
      rw [ih (by omega), hshift]
      simp only [Binding.entry, toInt_parameterSlot (show index < 2147483648 by omega),
        Nat.add_zero]

/-! ## The blocks of a body -/

/-- What a scope declares, without the slots. -/
def Scope.toBody : Scope → Body
  | empty => .done
  | binding first rest => .declare ⟨first.name, first.type⟩ rest.toBody
  | nested inner rest => .block inner.toBody rest.toBody

/-- Without its slots, the scope of a body is the body, block for block. -/
lemma Body.toBody_number (body : Body) (next : Int32) : (body.number next).1.toBody = body := by
  induction body generalizing next with
  | done => rfl
  | declare first rest ih => simp only [number, Scope.toBody, ih]
  | block inner rest ihInner ihRest => simp only [number, Scope.toBody, ihInner, ihRest]

/-- Without their slots, the parameters of a scope are declarations before its items. -/
lemma Scope.toBody_withParameters (scope : Scope) (params : List Declaration) (index : Nat) :
    (scope.withParameters params index).toBody = params.foldr Body.declare scope.toBody := by
  induction params generalizing index with
  | nil => rfl
  | cons param params ih => simp only [withParameters, toBody, ih, List.foldr_cons]

/-! ## One function -/

/-- At most `2 ^ 31` parameters and fewer than `2 ^ 31` locals, those of all blocks included. -/
def FitsSlots (params : List Declaration) (body : Body) : Prop :=
  params.length ≤ 2147483648 ∧ body.locals.length < 2147483648

/-- Whether a function keeps the limits is decided by counting. -/
instance instDecidableFitsSlots (params : List Declaration) (body : Body) :
    Decidable (FitsSlots params body) :=
  inferInstanceAs (Decidable (_ ∧ _))

/-- A function that keeps the limits is numbered without leaving 32 bits. -/
lemma functionScope?_eq_some {params : List Declaration} {body : Body} (h : FitsSlots params body) :
    functionScope? params body = some (functionScope params body) := by
  have hzero : (0 : Int32).toInt = 0 := by decide
  have hlocals := h.2
  unfold functionScope?
  rw [Body.number?_eq_some body (by omega)]
  exact Scope.withParameters?_eq_some _ params (by simpa using h.1)

/-- The parameters and locals of a function with the values of their slots. -/
lemma map_entry_bindings_functionScope {params : List Declaration} {body : Body}
    (h : FitsSlots params body) :
    (functionScope params body).bindings.map Binding.entry =
      (params.mapIdx fun index param => (param, -(index + 1 : Int))) ++
        body.locals.mapIdx fun index declared => (declared, (index : Int)) := by
  have hzero : (0 : Int32).toInt = 0 := by decide
  have hlocals := h.2
  unfold functionScope
  rw [Scope.map_entry_bindings_withParameters _ params (by simpa using h.1),
    Body.map_entry_bindings_number body (by omega)]
  simp [hzero]

/-- The second halves of pairs that are numbered by position depend on the length only. -/
lemma map_snd_mapIdx {α β : Type} (value : Nat → β) (items : List α) :
    (items.mapIdx fun index item => (item, value index)).map Prod.snd =
      (List.range items.length).map value := by
  apply List.ext_getElem
  · simp
  · intro index _ _
    simp

/-- The values of a function's slots: down from minus one, then up from zero. -/
lemma map_slot_bindings_functionScope {params : List Declaration} {body : Body}
    (h : FitsSlots params body) :
    ((functionScope params body).bindings.map fun binding => binding.slot.toInt) =
      ((List.range params.length).map fun index : Nat => -(index + 1 : Int)) ++
        (List.range body.locals.length).map fun index : Nat => (index : Int) := by
  have hentries := congrArg (List.map Prod.snd) (map_entry_bindings_functionScope h)
  rw [List.map_map, List.map_append, map_snd_mapIdx, map_snd_mapIdx] at hentries
  exact hentries

/-- No two bindings of a function share a slot. -/
lemma nodup_slots_functionScope {params : List Declaration} {body : Body}
    (h : FitsSlots params body) :
    ((functionScope params body).bindings.map Binding.slot).Nodup := by
  apply List.Nodup.of_map Int32.toInt
  rw [List.map_map]
  change ((functionScope params body).bindings.map fun binding => binding.slot.toInt).Nodup
  rw [map_slot_bindings_functionScope h, List.nodup_append]
  refine ⟨List.Nodup.map ?_ List.nodup_range, List.Nodup.map ?_ List.nodup_range, ?_⟩
  · intro first second hsame
    simp only at hsame
    omega
  · intro first second hsame
    simp only at hsame
    omega
  · intro param hparam declared hdeclared
    obtain ⟨first, -, rfl⟩ := List.mem_map.mp hparam
    obtain ⟨second, -, rfl⟩ := List.mem_map.mp hdeclared
    omega

/-! ## Programs -/

namespace Outline

/-- The scopes that an item adds to an outline: a definition adds the scope of its function. -/
def Item.scopes : Item → List Scope
  | .declaration _ => []
  | .definition _ params _ body => [functionScope params body]

/-- A definition keeps the limits of slots if its function does. -/
def Item.FitsSlots : Item → Prop
  | .declaration _ => True
  | .definition _ params _ body => Conformance.FitsSlots params body

/-- A declaration adds no scope. -/
lemma scopes_declare (outline : Outline) (signature : Signature) :
    (outline.declare signature).scopes = outline.scopes := by
  unfold declare
  split <;> rfl

/-- One more item adds its scopes after those that are there. -/
lemma scopes_extend (outline : Outline) (item : Item) :
    (outline.extend item).scopes = outline.scopes ++ item.scopes := by
  cases item with
  | declaration signature =>
      rw [extend, scopes_declare, Item.scopes, List.append_nil]
  | definition name params result body =>
      rw [extend, define, Item.scopes, scopes_declare]

/-- The scopes of a program are those of its definitions, in order. -/
lemma scopes_ofItems (items : List Item) : (ofItems items).scopes = items.flatMap Item.scopes := by
  have hrun : ∀ outline : Outline,
      (items.foldl extend outline).scopes = outline.scopes ++ items.flatMap Item.scopes := by
    induction items with
    | nil => simp
    | cons item items ih =>
        intro outline
        rw [List.foldl_cons, ih, scopes_extend, List.flatMap_cons, List.append_assoc]
  exact hrun empty

/-- Every scope of a program belongs to one of its definitions. -/
lemma exists_definition_of_mem_scopes {items : List Item} {scope : Scope}
    (h : scope ∈ (ofItems items).scopes) :
    ∃ name params result body, Item.definition name params result body ∈ items ∧
      scope = functionScope params body := by
  rw [scopes_ofItems, List.mem_flatMap] at h
  obtain ⟨item, hitem, hscope⟩ := h
  cases item with
  | declaration signature => simp [Item.scopes] at hscope
  | definition name params result body =>
      exact ⟨name, params, result, body, hitem, by simpa [Item.scopes] using hscope⟩

end Outline

/-- **Slots.** For a function with at most `2 ^ 31` parameters and fewer than `2 ^ 31` locals, no
step of the numbering leaves 32 bits; the bindings of its scope, in the order of the source, are the
parameters with the slots `-1, -2, …` and then the locals with the slots `0, 1, …`; and the scope
without its slots is the parameters followed by the body, block for block. So in the outline of any
program made of such functions, no two bindings of a function share a slot, and the locals of each
function are counted from zero again. -/
theorem functionScope_slots :
    (∀ (params : List Declaration) (body : Body), FitsSlots params body →
      functionScope? params body = some (functionScope params body) ∧
      (functionScope params body).bindings.map Binding.entry =
        (params.mapIdx fun index param => (param, -(index + 1 : Int))) ++
          (body.locals.mapIdx fun index declared => (declared, (index : Int))) ∧
      (functionScope params body).toBody = params.foldr Body.declare body) ∧
    ∀ items : List Outline.Item, (∀ item ∈ items, item.FitsSlots) →
      ∀ scope ∈ (Outline.ofItems items).scopes,
        (scope.bindings.map Binding.slot).Nodup ∧
        ∃ name params result body, Outline.Item.definition name params result body ∈ items ∧
          (scope.bindings.map fun binding => binding.slot.toInt) =
            ((List.range params.length).map fun index : Nat => -(index + 1 : Int)) ++
              (List.range body.locals.length).map fun index : Nat => (index : Int) := by
  refine ⟨?_, ?_⟩
  · intro params body h
    refine ⟨functionScope?_eq_some h, map_entry_bindings_functionScope h, ?_⟩
    unfold functionScope
    rw [Scope.toBody_withParameters, Body.toBody_number]
  · intro items hitems scope hscope
    obtain ⟨name, params, result, body, hmem, rfl⟩ :=
      Outline.exists_definition_of_mem_scopes hscope
    have hfits : FitsSlots params body := hitems _ hmem
    exact ⟨nodup_slots_functionScope hfits, name, params, result, body, hmem,
      map_slot_bindings_functionScope hfits⟩

/-- A body with locals before, inside and after blocks, one of which is empty. -/
def blockBody : Body :=
  .declare ⟨"x", .int⟩
    (.block (.block .done (.declare ⟨"y", .bool⟩ .done)) (.declare ⟨"z", .byte⟩ .done))

/-- The slots of a function with two parameters and nested blocks, alone and in a program that
defines it twice. -/
theorem functionScope_slots_blockBody :
    (FitsSlots [⟨"a", .int⟩, ⟨"b", .string⟩] blockBody ∧
      (functionScope [⟨"a", .int⟩, ⟨"b", .string⟩] blockBody).bindings.map Binding.entry =
        [(⟨"a", .int⟩, -1), (⟨"b", .string⟩, -2), (⟨"x", .int⟩, 0), (⟨"y", .bool⟩, 1),
          (⟨"z", .byte⟩, 2)]) ∧
    ∀ scope ∈ (Outline.ofItems [.definition "f" [⟨"a", .int⟩] .void blockBody,
        .declaration ⟨"g", [], .int⟩, .definition "f" [] .void blockBody]).scopes,
      (scope.bindings.map Binding.slot).Nodup := by
  have hfits : FitsSlots [⟨"a", .int⟩, ⟨"b", .string⟩] blockBody := by decide
  have hitems : ∀ item ∈ [Outline.Item.definition "f" [⟨"a", .int⟩] .void blockBody,
      .declaration ⟨"g", [], .int⟩, .definition "f" [] .void blockBody], item.FitsSlots := by
    simp [Outline.Item.FitsSlots, FitsSlots, blockBody, Body.locals]
  exact ⟨⟨hfits, (functionScope_slots.1 _ blockBody hfits).2.1⟩,
    fun scope hscope => (functionScope_slots.2 _ hitems scope hscope).1⟩

end Conformance
