import Conformance.Proofs.Outline.Declarations

/-!
# Signatures and the definitions they belong to

A definition supplies a signature that is made of its parameters, so the two agree where the outline
lists that signature. It does not always: an item that comes before the definition may have supplied
another one for the name.

* **Parameters** (`take_bindings_functionScope`): a function's scope begins with the bindings of its
  parameters, in order and with the slots of parameters.
* **Agreement** (`Definition.Agrees`): what the outline of a program lists for the name of a
  definition has the types of these bindings and the result of the definition.
* **Main statement** (`agrees_iff`): a definition agrees with its signature exactly if the first
  item of its name before it, if there is one, supplies the same types.
-/

namespace Conformance

/-! ## Parameters -/

/-- Parameters stand before the items of a scope, each with the slot of its position. -/
lemma Scope.bindings_withParameters (scope : Scope) (params : List Declaration) (index : Nat) :
    (scope.withParameters params index).bindings =
      (params.mapIdx fun offset param =>
        ⟨param.name, param.type, parameterSlot (index + offset)⟩) ++ scope.bindings := by
  induction params generalizing index with
  | nil => rfl
  | cons param params ih =>
      have hshift : (fun (offset : Nat) (param : Declaration) =>
          (⟨param.name, param.type, parameterSlot (index + 1 + offset)⟩ : Binding)) =
          fun offset param => ⟨param.name, param.type, parameterSlot (index + (offset + 1))⟩ := by
        funext offset param
        rw [Nat.add_right_comm, Nat.add_assoc]
      rw [withParameters, bindings, ih, hshift, List.mapIdx_cons, List.cons_append, Nat.add_zero]

/-- **Parameters** are the first bindings of a function's scope. -/
lemma take_bindings_functionScope (params : List Declaration) (body : Body) :
    (functionScope params body).bindings.take params.length =
      params.mapIdx fun index param => ⟨param.name, param.type, parameterSlot index⟩ := by
  rw [functionScope, Scope.bindings_withParameters, List.take_left' List.length_mapIdx]
  simp only [Nat.zero_add]

/-- The parameters of a function have the slots of parameters in order. -/
lemma map_slot_take_bindings_functionScope (params : List Declaration) (body : Body) :
    ((functionScope params body).bindings.take params.length).map (·.slot) =
      (List.range params.length).map parameterSlot := by
  rw [take_bindings_functionScope]
  apply List.ext_getElem
  · simp
  · intro index _ _
    simp

/-- The parameters of a function have their declared types in order. -/
lemma map_type_take_bindings_functionScope (params : List Declaration) (body : Body) :
    ((functionScope params body).bindings.take params.length).map (·.type) =
      params.map (·.type) := by
  rw [take_bindings_functionScope]
  apply List.ext_getElem
  · simp
  · intro index _ _
    simp

namespace Outline

/-! ## Agreement -/

/-- A definition of a function with the items of its program before and after it. -/
structure Definition where
  /-- The items before it. -/
  before : List Item
  /-- The name of the function. -/
  name : String
  /-- Its parameters. -/
  params : List Declaration
  /-- The type of its result. -/
  result : ValueType
  /-- What it declares besides. -/
  body : Body
  /-- The items after it. -/
  after : List Item

namespace Definition

/-- The items of the whole program. -/
def items (definition : Definition) : List Item :=
  definition.before ++
    .definition definition.name definition.params definition.result definition.body ::
      definition.after

/-- The scope that the definition adds to the outline of its program, after those that are there. -/
def scope? (definition : Definition) : Option Scope :=
  (ofItems definition.items).scopes[(ofItems definition.before).scopes.length]?

/-- A definition agrees with the signature that the outline of its program lists for its name. -/
structure AgreesWith (definition : Definition) (signature : Signature) (scope : Scope) : Prop where
  /-- The signature is the one listed. -/
  signature?_eq : (ofItems definition.items).signature? definition.name = some signature
  /-- The scope is the one that the definition adds. -/
  scope?_eq : definition.scope? = some scope
  /-- It begins with bindings in the slots `-1, -2, …` of the parameters. -/
  slots_eq : (scope.bindings.take definition.params.length).map (·.slot) =
    (List.range definition.params.length).map parameterSlot
  /-- The signature takes the types of these bindings in order. -/
  params_eq : signature.params = (scope.bindings.take definition.params.length).map (·.type)
  /-- It returns what the definition does. -/
  result_eq : signature.result = definition.result

/-- Whether a definition agrees with its signature. -/
def Agrees (definition : Definition) : Prop :=
  ∃ signature scope, definition.AgreesWith signature scope

/-- The definition's scope is that of its function. -/
lemma scope?_eq_some (definition : Definition) :
    definition.scope? = some (functionScope definition.params definition.body) := by
  have hscopes : (ofItems definition.items).scopes =
      (ofItems definition.before).scopes ++ functionScope definition.params definition.body ::
        definition.after.flatMap Item.scopes := by
    rw [scopes_ofItems, scopes_ofItems, items, List.flatMap_append, List.flatMap_cons]
    rfl
  rw [scope?, hscopes, List.getElem?_append_right (Nat.le_refl _), Nat.sub_self,
    List.getElem?_cons_zero]

/-- The listed signature is that of the first item of the name before the definition, or else the
one that the definition supplies. -/
lemma signature?_eq_some (definition : Definition) :
    (ofItems definition.items).signature? definition.name =
      some (((definition.before.find? (·.name == definition.name)).map Item.signature).getD
        ⟨definition.name, definition.params.map (·.type), definition.result⟩) := by
  rw [signature?_ofItems, items, List.find?_append, List.find?_cons_of_pos (by simp [Item.name])]
  cases definition.before.find? (·.name == definition.name) <;> rfl

/-- **A definition agrees with its signature** exactly if the first item of its name before it, if
there is one, supplies the parameter types and the result of the definition. -/
theorem agrees_iff (definition : Definition) :
    definition.Agrees ↔
      ∀ item, definition.before.find? (·.name == definition.name) = some item →
        item.signature.params = definition.params.map (·.type) ∧
          item.signature.result = definition.result := by
  have hlisted := definition.signature?_eq_some
  have htypes := map_type_take_bindings_functionScope definition.params definition.body
  constructor
  · rintro ⟨signature, scope, h⟩ item hitem
    have hscope := h.scope?_eq
    rw [scope?_eq_some] at hscope
    cases hscope
    rw [hitem] at hlisted
    have hsignature : item.signature = signature :=
      Option.some.inj (hlisted.symm.trans h.signature?_eq)
    subst hsignature
    exact ⟨h.params_eq.trans htypes, h.result_eq⟩
  · intro h
    refine ⟨_, _, hlisted, definition.scope?_eq_some,
      map_slot_take_bindings_functionScope definition.params definition.body, ?_, ?_⟩
    · rw [htypes]
      cases hfirst : definition.before.find? (·.name == definition.name) with
      | none => rfl
      | some item => exact (h item hfirst).1
    · cases hfirst : definition.before.find? (·.name == definition.name) with
      | none => rfl
      | some item => exact (h item hfirst).2

/-- A function without parameters or result that was declared with both. -/
def declaredOtherwise : Definition where
  before := [.declaration ⟨"f", [.int], .int⟩]
  name := "f"
  params := []
  result := .void
  body := .done
  after := []

/-- Where a function is first declared with other types, these stay listed, and its definition does
not agree with them. -/
theorem not_agrees_declaredOtherwise :
    (ofItems declaredOtherwise.items).signature? "f" = some ⟨"f", [.int], .int⟩ ∧
      ¬declaredOtherwise.Agrees := by
  have hlisted : (ofItems declaredOtherwise.items).signature? "f" =
      some ⟨"f", [.int], .int⟩ := by
    decide
  refine ⟨hlisted, ?_⟩
  rintro ⟨signature, scope, h⟩
  have hsignature := h.signature?_eq
  rw [show declaredOtherwise.name = "f" from rfl, hlisted] at hsignature
  cases hsignature
  have hresult : ValueType.int = .void := h.result_eq
  cases hresult

end Definition

end Outline

end Conformance
