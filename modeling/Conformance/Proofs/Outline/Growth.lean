import Conformance.Proofs.Outline.Declarations
import Conformance.Proofs.Outline.Lines
import Conformance.Proofs.Text.LineCuts

/-!
# What a further item adds to a dump

An outline is printed anew after every item of a program. Little of the text is new: at most one
line behind the signatures, and the block of one scope before the line that closes the global scope.

* **Two parts** (`dump_eq`): a dump is the text of its signatures, that of its scopes and the
  closing line. Every line but the last has its newline in its own part, so the parts can be told
  apart whatever the names are.
* **Further signatures and scopes** (`dump_append`): each part grows at its end.
* **Main statement** (`growsLocally`): what one declaration or definition adds to the dump of an
  outline, and that no later item takes any of its text away.
-/

namespace Conformance

/-! ## Terminated lines -/

/-- Lines put together, each with a newline at its end. -/
def terminatedText (lines : List String) : String :=
  String.ofList (Text.terminated (lines.map String.toList))

/-- The characters of terminated lines. -/
@[simp] lemma toList_terminatedText (lines : List String) :
    (terminatedText lines).toList = Text.terminated (lines.map String.toList) :=
  String.toList_ofList

/-- No lines make up no text. -/
@[simp] lemma terminatedText_nil : terminatedText [] = "" := rfl

/-- Terminated lines follow each other. -/
lemma terminatedText_append (first second : List String) :
    terminatedText (first ++ second) = terminatedText first ++ terminatedText second := by
  apply String.toList_injective
  simp [Text.terminated]

/-- A single line has its newline behind it. -/
lemma terminatedText_singleton (line : String) : terminatedText [line] = line ++ "\n" := by
  apply String.toList_injective
  simp [Text.terminated]

/-- Lines with a newline between them are terminated, but for the last. -/
lemma intercalate_concat (lines : List String) (last : String) :
    "\n".intercalate (lines ++ [last]) = terminatedText lines ++ last := by
  apply String.toList_injective
  have hcut := Text.intercalate_append_cons (lines.map String.toList) last.toList []
  rw [String.toList_intercalate, List.map_append, String.toList_append, toList_terminatedText]
  simpa [Text.preceded] using hcut

namespace Outline

/-! ## Two parts -/

/-- The lines of a dump up to the last signature, with their newlines. -/
def signaturesText (outline : Outline) : String :=
  terminatedText
    (globalOpen :: (librarySignatures ++ outline.signatures).map Signature.display)

/-- The text of a scope as the dump of an outline shows it, with its newlines. -/
def blockText (scope : Scope) : String :=
  terminatedText (scope.dumpLines 1)

/-- The lines of a dump that show the scopes, with their newlines. -/
def scopesText (outline : Outline) : String :=
  terminatedText (outline.scopes.flatMap (Scope.dumpLines 1))

/-- **A dump** is the text of its signatures, that of its scopes and the closing line. -/
lemma dump_eq (outline : Outline) :
    outline.dump = outline.signaturesText ++ (outline.scopesText ++ globalClose) := by
  rw [dump, dumpLines, ← List.append_assoc, ← List.cons_append, intercalate_concat,
    ← List.cons_append, terminatedText_append, String.append_assoc]
  rfl

/-- **Further signatures and scopes** go in behind those that are there. -/
lemma dump_append (outline : Outline) (signatures : List Signature) (scopes : List Scope) :
    dump ⟨outline.signatures ++ signatures, outline.scopes ++ scopes⟩ =
      outline.signaturesText ++ (terminatedText (signatures.map Signature.display) ++
        (outline.scopesText ++ (terminatedText (scopes.flatMap (Scope.dumpLines 1)) ++
          globalClose))) := by
  have hsignatures : signaturesText ⟨outline.signatures ++ signatures, outline.scopes ++ scopes⟩ =
      outline.signaturesText ++ terminatedText (signatures.map Signature.display) := by
    rw [signaturesText, signaturesText, ← terminatedText_append, ← List.append_assoc,
      List.map_append, List.cons_append]
  have hscopes : scopesText ⟨outline.signatures ++ signatures, outline.scopes ++ scopes⟩ =
      outline.scopesText ++ terminatedText (scopes.flatMap (Scope.dumpLines 1)) := by
    rw [scopesText, scopesText, ← terminatedText_append, ← List.flatMap_append]
  rw [dump_eq, hsignatures, hscopes, String.append_assoc, String.append_assoc]

/-! ## One item -/

/-- The signatures that an item adds to an outline: its own, unless the name is declared. -/
def added (outline : Outline) (item : Item) : List Signature :=
  if outline.declares item.name then [] else [item.signature]

/-- An item adds signatures and scopes behind those that are there. -/
lemma extend_eq (outline : Outline) (item : Item) :
    outline.extend item =
      ⟨outline.signatures ++ outline.added item, outline.scopes ++ item.scopes⟩ := by
  have hsignatures : (outline.extend item).signatures =
      outline.signatures ++ outline.added item := by
    rw [signatures_extend, added]
    split
    · rw [List.append_nil]
    · rfl
  rw [← hsignatures, ← scopes_extend]

/-- **What an item adds** stands behind the signatures and before the closing line. -/
lemma dump_extend (outline : Outline) (item : Item) :
    (outline.extend item).dump =
      outline.signaturesText ++
        (terminatedText ((outline.added item).map Signature.display) ++
          (outline.scopesText ++
            (terminatedText (item.scopes.flatMap (Scope.dumpLines 1)) ++ globalClose))) := by
  rw [extend_eq, dump_append]

/-- An item of a new name adds the line of its signature. -/
lemma dump_extend_of_new {outline : Outline} {item : Item}
    (h : outline.declares item.name = false) :
    (outline.extend item).dump =
      outline.signaturesText ++ (item.signature.display ++ "\n" ++
        (outline.scopesText ++
          (terminatedText (item.scopes.flatMap (Scope.dumpLines 1)) ++ globalClose))) := by
  have hadded : outline.added item = [item.signature] := if_neg (Bool.eq_false_iff.mp h)
  rw [dump_extend, hadded, List.map_singleton, terminatedText_singleton]

/-- An item of a declared name adds no line to the signatures. -/
lemma dump_extend_of_declared {outline : Outline} {item : Item}
    (h : outline.declares item.name = true) :
    (outline.extend item).dump =
      outline.signaturesText ++
        (outline.scopesText ++
          (terminatedText (item.scopes.flatMap (Scope.dumpLines 1)) ++ globalClose)) := by
  have hadded : outline.added item = [] := if_pos h
  rw [dump_extend, hadded, List.map_nil, terminatedText_nil, String.empty_append]

/-- No text of a dump is lost by a further item. -/
lemma sublist_dump_extend (outline : Outline) (item : Item) :
    List.Sublist outline.dump.toList (outline.extend item).dump.toList := by
  rw [dump_extend, dump_eq]
  simp only [String.toList_append]
  refine (List.Sublist.refl _).append ?_
  refine List.Sublist.trans ?_ (List.sublist_append_right _ _)
  exact (List.Sublist.refl _).append (List.sublist_append_right _ _)

/-- No text of a dump is lost by any number of further items. -/
lemma sublist_dump_foldl (outline : Outline) (items : List Item) :
    List.Sublist outline.dump.toList (items.foldl extend outline).dump.toList := by
  induction items generalizing outline with
  | nil => exact List.Sublist.refl _
  | cons item items ih => exact (outline.sublist_dump_extend item).trans (ih _)

/-- What declarations and definitions add to the dump of an outline. -/
structure GrowsLocally (outline : Outline) : Prop where
  /-- The dump is the text of the signatures, that of the scopes and the closing line. -/
  dump_eq : outline.dump = outline.signaturesText ++ (outline.scopesText ++ globalClose)
  /-- A declaration of a new name adds the line of its signature behind the signatures. -/
  declare_new : ∀ signature, outline.declares signature.name = false →
    (outline.declare signature).dump =
      outline.signaturesText ++ (signature.display ++ "\n" ++ (outline.scopesText ++ globalClose))
  /-- A declaration of a declared name adds nothing. -/
  declare_declared : ∀ signature, outline.declares signature.name = true →
    (outline.declare signature).dump = outline.dump
  /-- A definition of a new name adds the line of the signature that it makes, and the block of its
  scope before the closing line. -/
  define_new : ∀ name params result body, outline.declares name = false →
    (outline.define name params result body).dump =
      outline.signaturesText ++
        ((⟨name, params.map (·.type), result⟩ : Signature).display ++ "\n" ++
          (outline.scopesText ++ (blockText (functionScope params body) ++ globalClose)))
  /-- A definition of a declared name adds the block alone. -/
  define_declared : ∀ name params result body, outline.declares name = true →
    (outline.define name params result body).dump =
      outline.signaturesText ++
        (outline.scopesText ++ (blockText (functionScope params body) ++ globalClose))
  /-- The text stays, in order and character by character, whatever items follow. -/
  kept : ∀ items : List Item,
    List.Sublist outline.dump.toList (items.foldl extend outline).dump.toList

/-- **A further function changes a dump only where it is added.** At most one line goes in behind
the last signature, just if the name is new, and for a definition one block before the closing line;
the block is the same in every outline. All other text stays as it is, whatever the names hold. -/
theorem growsLocally (outline : Outline) : GrowsLocally outline := by
  refine
    { dump_eq := outline.dump_eq
      declare_new := ?_
      declare_declared := ?_
      define_new := ?_
      define_declared := ?_
      kept := outline.sublist_dump_foldl }
  · intro signature hnew
    have hdump := @dump_extend_of_new outline (.declaration signature) hnew
    rwa [Item.scopes, List.flatMap_nil, terminatedText_nil, String.empty_append] at hdump
  · intro signature hdeclared
    rw [declare, if_pos hdeclared]
  · intro name params result body hnew
    have hdump := @dump_extend_of_new outline (.definition name params result body) hnew
    rwa [Item.scopes, List.flatMap_singleton] at hdump
  · intro name params result body hdeclared
    have hdump := @dump_extend_of_declared outline (.definition name params result body) hdeclared
    rwa [Item.scopes, List.flatMap_singleton] at hdump

end Outline

end Conformance
