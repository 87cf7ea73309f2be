import Conformance.Proofs.Scope.Slots
import Mathlib.Data.List.Induction
import Mathlib.Data.List.Nodup

/-!
# What an outline keeps of a program

Functions may be declared and defined any number of times and in any order. What is left of that in
the outline is said by the items alone, whatever came between them.

* **One item** (`signatures_extend`): the signature that an item supplies is put last, unless its
  name is declared already.
* **Look-up** (`signature?_ofItems`): the signature that a program has for a name is the one that
  the first item of this name supplies.
* **Names** (`names_ofItems`): they are listed once each, in order of first occurrence.
* **Later items** (`IsPrefixOf`): they leave what is there where it is.
* **Main statement** (`records_ofItems`): all of this for every program, with the scopes of its
  definitions.
-/

namespace Conformance

/-- Where keys are all different, an element is found by its key. -/
lemma find?_key_eq_some {α β : Type} [BEq β] [LawfulBEq β] {key : α → β} {elements : List α}
    {element : α} (hnodup : (elements.map key).Nodup) (helement : element ∈ elements) :
    elements.find? (key · == key element) = some element := by
  induction elements with
  | nil => cases helement
  | cons first rest ih =>
      obtain ⟨hfresh, hrest⟩ := List.nodup_cons.mp hnodup
      rcases List.mem_cons.mp helement with rfl | helement
      · exact List.find?_cons_of_pos (by simp)
      · have hne : key first ≠ key element := fun heq => hfresh (heq ▸ List.mem_map_of_mem helement)
        rw [List.find?_cons_of_neg (by simpa using hne), ih hrest helement]

/-- One more value is kept last, unless it is there already. -/
lemma eraseDups_concat {α : Type} [BEq α] [LawfulBEq α] (values : List α) (last : α) :
    (values ++ [last]).eraseDups =
      if values.elem last then values.eraseDups else values.eraseDups ++ [last] := by
  have hlast : [last].eraseDups = [last] := by
    rw [List.eraseDups_cons, List.filter_nil, List.eraseDups_nil]
  rw [List.eraseDups_append, List.removeAll, List.filter_singleton]
  cases values.elem last <;> simp [hlast]

namespace Outline

/-! ## One item -/

/-- The name that an item declares. -/
def Item.name : Item → String
  | .declaration signature => signature.name
  | .definition name _ _ _ => name

/-- The signature that an item supplies for its name. -/
def Item.signature : Item → Signature
  | .declaration signature => signature
  | .definition name params result _ => ⟨name, params.map (·.type), result⟩

/-- The signature of an item has the item's name. -/
@[simp] lemma Item.name_signature (item : Item) : item.signature.name = item.name := by
  cases item <;> rfl

/-- The names for which an outline has signatures, in order. -/
def names (outline : Outline) : List String :=
  outline.signatures.map Signature.name

/-- The signature that an outline has for a name. -/
def signature? (outline : Outline) (name : String) : Option Signature :=
  outline.signatures.find? (·.name == name)

/-- A name is declared if it is one of the outline's. -/
lemma declares_iff_mem_names {outline : Outline} {name : String} :
    outline.declares name = true ↔ name ∈ outline.names := by
  simp [declares, names]

/-- **One item** puts its signature last, unless its name is declared. -/
lemma signatures_extend (outline : Outline) (item : Item) :
    (outline.extend item).signatures =
      if outline.declares item.name then outline.signatures
      else outline.signatures ++ [item.signature] := by
  have hdeclare : ∀ signature : Signature, (outline.declare signature).signatures =
      if outline.declares signature.name then outline.signatures
      else outline.signatures ++ [signature] := by
    intro signature
    unfold declare
    split <;> rfl
  cases item with
  | declaration signature => exact hdeclare signature
  | definition name params result body => exact hdeclare ⟨name, params.map (·.type), result⟩

/-- After one more item, its name is the last one, unless it was there. -/
lemma names_extend (outline : Outline) (item : Item) :
    (outline.extend item).names =
      if outline.names.elem item.name then outline.names else outline.names ++ [item.name] := by
  have hdeclares : outline.declares item.name = outline.names.elem item.name := by
    rw [Bool.eq_iff_iff, declares_iff_mem_names, List.elem_iff]
  rw [names, signatures_extend, hdeclares]
  split
  · rfl
  · rw [List.map_append, List.map_singleton, Item.name_signature, names]

/-- After one more item, a name has the signature it had, and only else the one of the item. -/
lemma signature?_extend (outline : Outline) (item : Item) (name : String) :
    (outline.extend item).signature? name =
      (outline.signature? name).or (if item.name == name then some item.signature else none) := by
  rw [signature?, signature?, signatures_extend]
  split
  · next hdeclared =>
    -- the item adds nothing, and if the name is the item's, it has been found
    by_cases hname : item.name = name
    · subst hname
      obtain ⟨signature, hmem, hsame⟩ := List.any_eq_true.mp hdeclared
      have hfound : (outline.signatures.find? (·.name == item.name)).isSome = true :=
        List.find?_isSome.mpr ⟨signature, hmem, hsame⟩
      rw [Option.or_of_isSome hfound]
    · simp [hname]
  · rw [List.find?_append]
    by_cases hname : item.name = name <;> simp [hname]

/-! ## Programs -/

/-- One more item comes after those before it. -/
lemma ofItems_concat (items : List Item) (item : Item) :
    ofItems (items ++ [item]) = (ofItems items).extend item := by
  rw [ofItems, ofItems, List.foldl_append]
  rfl

/-- **Names** are listed once each, in order of first occurrence. -/
lemma names_ofItems (items : List Item) :
    (ofItems items).names = (items.map Item.name).eraseDups := by
  induction items using List.reverseRecOn with
  | nil => rfl
  | append_singleton items item ih =>
      have hmem : (items.map Item.name).eraseDups.elem item.name =
          (items.map Item.name).elem item.name := by
        rw [Bool.eq_iff_iff, List.elem_iff, List.elem_iff, List.mem_eraseDups]
      rw [ofItems_concat, names_extend, ih, List.map_append, List.map_singleton, eraseDups_concat,
        hmem]

/-- No name is listed twice. -/
lemma nodup_names_ofItems (items : List Item) : (ofItems items).names.Nodup := by
  induction items using List.reverseRecOn with
  | nil => exact List.nodup_nil
  | append_singleton items item ih =>
      rw [ofItems_concat, names_extend]
      split
      · exact ih
      · next hnew =>
        have hfresh : item.name ∉ (ofItems items).names := fun hmem => hnew (List.elem_iff.mpr hmem)
        refine List.nodup_append.mpr ⟨ih, List.nodup_singleton _, ?_⟩
        intro name hname other hother heq
        rw [heq, List.mem_singleton.mp hother] at hname
        exact hfresh hname

/-- **Look-up.** A name has the signature that its first item supplies. -/
lemma signature?_ofItems (items : List Item) (name : String) :
    (ofItems items).signature? name =
      (items.find? (·.name == name)).map Item.signature := by
  induction items using List.reverseRecOn with
  | nil => rfl
  | append_singleton items item ih =>
      rw [ofItems_concat, signature?_extend, ih, List.find?_append]
      cases items.find? (·.name == name) with
      | some first => rfl
      | none => by_cases hname : item.name = name <;> simp [hname]

/-! ## Later items -/

/-- An outline whose signatures and scopes are the first ones of another. -/
structure IsPrefixOf (first second : Outline) : Prop where
  /-- No signature is altered, moved or removed. -/
  signatures : first.signatures <+: second.signatures
  /-- No scope is. -/
  scopes : first.scopes <+: second.scopes

/-- One item leaves what is there where it is. -/
lemma isPrefixOf_extend (outline : Outline) (item : Item) :
    outline.IsPrefixOf (outline.extend item) := by
  refine ⟨?_, ?_⟩
  · rw [signatures_extend]
    split
    · exact List.prefix_rfl
    · exact List.prefix_append _ _
  · rw [scopes_extend]
    exact List.prefix_append _ _

/-- **Later items** leave what is there where it is. -/
lemma isPrefixOf_ofItems_append (items more : List Item) :
    (ofItems items).IsPrefixOf (ofItems (items ++ more)) := by
  induction more using List.reverseRecOn with
  | nil =>
      rw [List.append_nil]
      exact ⟨List.prefix_rfl, List.prefix_rfl⟩
  | append_singleton more item ih =>
      have hlast := isPrefixOf_extend (ofItems (items ++ more)) item
      rw [← List.append_assoc, ofItems_concat]
      exact ⟨ih.signatures.trans hlast.signatures, ih.scopes.trans hlast.scopes⟩

/-! ## The outline of a program -/

/-- What the outline of a program records of its items. -/
structure Records (items : List Item) (outline : Outline) : Prop where
  /-- No two signatures have one name. -/
  names_nodup : outline.names.Nodup
  /-- The names are those of the items, in order of first occurrence. -/
  names_eq : outline.names = (items.map Item.name).eraseDups
  /-- Every signature is the one that the first item of its name supplies. -/
  first_item : ∀ signature ∈ outline.signatures, ∃ before item after,
    items = before ++ item :: after ∧ item.signature = signature ∧
      ∀ earlier ∈ before, earlier.name ≠ signature.name
  /-- A name is declared exactly if some item has it. -/
  declares_iff : ∀ name, outline.declares name = true ↔ ∃ item ∈ items, item.name = name
  /-- The scopes are those of the definitions in order; declarations have none. -/
  scopes_eq : outline.scopes = items.flatMap Item.scopes

/-- **Every program is recorded by first occurrence.** The outline of a program has one signature
for each name, in order of first occurrence and as the first item of the name supplies it, and one
scope for each definition in order; and it stays a part of the outline of every longer program. -/
theorem records_ofItems (items : List Item) :
    Records items (ofItems items) ∧
      ∀ more, (ofItems items).IsPrefixOf (ofItems (items ++ more)) := by
  have hnodup := nodup_names_ofItems items
  refine ⟨⟨hnodup, names_ofItems items, ?_, ?_, scopes_ofItems items⟩,
    isPrefixOf_ofItems_append items⟩
  · intro signature hsignature
    have hfound : (ofItems items).signature? signature.name = some signature :=
      find?_key_eq_some hnodup hsignature
    rw [signature?_ofItems, Option.map_eq_some_iff] at hfound
    obtain ⟨item, hitem, hsupplied⟩ := hfound
    obtain ⟨-, before, after, hitems, hbefore⟩ := List.find?_eq_some_iff_append.mp hitem
    exact ⟨before, item, after, hitems, hsupplied, by simpa using hbefore⟩
  · intro name
    rw [declares_iff_mem_names, names_ofItems, List.mem_eraseDups, List.mem_map]

/-- A function declared twice with different types and then defined keeps the first place and the
first types. -/
example : (ofItems [.declaration ⟨"f", [.int], .int⟩, .definition "main" [] .void .done,
    .declaration ⟨"f", [], .bool⟩, .definition "f" [] .void .done]).signatures =
      [⟨"f", [.int], .int⟩, ⟨"main", [], .void⟩] := by
  decide

end Outline

end Conformance
