import Conformance.Proofs.Diagnostic.Texts
import Conformance.Proofs.Outline.Growth
import Conformance.Proofs.Text.NormalForm

/-!
# Answers are stored whole

An answer is trimmed before it is stored. Names may begin or end with blanks and may be nothing but
blanks; no name reaches an end of an answer's text, so trimming takes nothing.

* **Outlines** (`Outline.dump_eq_framed`): a dump begins with the library functions in the global
  scope and ends with the line that closes it.
* **Diagnostics** (`Diagnostic.text_cases`, `Violation.exists_last_message`): the text is the
  message of a missing entry point or begins with a line, and no message ends in a blank.
* **Main statement** (`storedWhole`): every answer is stored as its text and one newline, and the
  text tells whether the program is accepted.
-/

namespace Conformance

open Text

/-- A text is bare if its first and its last character are known not to be blank. -/
lemma Text.bare_of_ends {text : List Char} {first last : Char} (hfirst : text.head? = some first)
    (hlast : text.getLast? = some last) (hfirst' : isBlank first = false)
    (hlast' : isBlank last = false) : Bare text := by
  constructor
  · rintro c hc
    obtain rfl : first = c := Option.some.inj (hfirst.symm.trans hc)
    exact hfirst'
  · rintro c hc
    obtain rfl : last = c := Option.some.inj (hlast.symm.trans hc)
    exact hlast'

/-! ## Outlines -/

namespace Outline

/-- The first lines of every dump: the global scope with the library functions. -/
def opening : String :=
  "---begin global scope---\nprint (string) -> void\nprinti (int) -> void\n"

/-- **Every dump** begins with the library functions and ends with the line that closes the global
scope. -/
lemma dump_eq_framed (outline : Outline) :
    outline.dump = opening ++ (terminatedText (outline.signatures.map Signature.display) ++
      outline.scopesText) ++ globalClose := by
  have hopening :
      terminatedText (globalOpen :: librarySignatures.map Signature.display) = opening := by
    decide
  have hsignatures : outline.signaturesText =
      opening ++ terminatedText (outline.signatures.map Signature.display) := by
    rw [signaturesText, List.map_append, ← List.cons_append, terminatedText_append, hopening]
  rw [dump_eq, hsignatures, String.append_assoc, String.append_assoc, String.append_assoc]

/-- A dump begins with a dash. -/
lemma head?_dump (outline : Outline) : outline.dump.toList.head? = some '-' := by
  rw [dump_eq_framed, String.toList_append, String.toList_append, List.append_assoc]
  rfl

/-- A dump ends with a dash. -/
lemma getLast?_dump (outline : Outline) : outline.dump.toList.getLast? = some '-' := by
  have hclose : globalClose.toList.getLast? = some '-' := by decide
  rw [dump_eq_framed, String.toList_append, List.getLast?_append, hclose, Option.some_or]

/-- No end of a dump is blank. -/
lemma bare_dump (outline : Outline) : Bare outline.dump.toList :=
  bare_of_ends outline.head?_dump outline.getLast?_dump (by decide) (by decide)

end Outline

/-! ## Diagnostics -/

/-- The last closing word of a message ends in a character that is not blank. -/
lemma Violation.exists_last_closing (violation : Violation) :
    ∃ front word last, violation.closing = front ++ [word] ∧ word.toList.getLast? = some last ∧
      isBlank last = false := by
  cases violation with
  | undefinedVariable name => exact ⟨["is", "not"], "defined", 'd', rfl, rfl, by decide⟩
  | undefinedFunction name => exact ⟨["is", "not"], "defined", 'd', rfl, rfl, by decide⟩
  | duplicateSymbol name => exact ⟨["is", "already"], "defined", 'd', rfl, rfl, by decide⟩
  | typeMismatch => exact ⟨[], "mismatch", 'h', rfl, rfl, by decide⟩
  | literalOutOfRange type value =>
      exact ⟨["value", value.repr, "out", "of"], "range", 'e', rfl, rfl, by decide⟩
  | unexpectedBreak => exact ⟨["break"], "statement", 't', rfl, rfl, by decide⟩
  | unexpectedContinue => exact ⟨["continue"], "statement", 't', rfl, rfl, by decide⟩
  | prototypeMismatch function params =>
      refine ⟨["expects", "parameters"], _, ')', rfl, ?_, by decide⟩
      rw [String.toList_append]
      exact List.getLast?_concat
  | nameKindMismatch name actual =>
      refine ⟨["is", "a"], actual.word, actual.word.toList.getLast (by cases actual <;> decide),
        rfl, List.getLast?_eq_some_getLast _, ?_⟩
      cases actual <;> decide
  | missingMain => exact ⟨["has", "no", "'void", "main()'"], "function", 'n', rfl, rfl, by decide⟩

/-- No message ends in a blank, as it ends in a word that is no name. -/
lemma Violation.exists_last_message (violation : Violation) :
    ∃ last, violation.message.toList.getLast? = some last ∧ isBlank last = false := by
  obtain ⟨front, word, last, hclosing, hlast, hblank⟩ := violation.exists_last_closing
  refine ⟨last, ?_, hblank⟩
  rw [toList_message, hclosing, List.map_append, List.flatMap_append, ← List.append_assoc,
    List.getLast?_append, List.map_singleton, List.flatMap_singleton, List.getLast?_cons, hlast]
  rfl

namespace Diagnostic

/-- **The text of a diagnostic** is the message of a missing entry point, or begins with the numeral
of a line. -/
lemma text_cases (diagnostic : Diagnostic) :
    diagnostic.text = "Program has no 'void main()' function" ∨
      ∃ line numeral message, diagnostic.line = some line ∧ 1 ≤ line ∧
        IsNumeral numeral.toList line ∧
          diagnostic.text = "line " ++ numeral ++ ": " ++ message := by
  cases hline : diagnostic.line with
  | none =>
      have hmain : diagnostic.violation = .missingMain := diagnostic.line_eq_none_iff.mp hline
      left
      rw [text_of_line_eq_none hline, hmain]
      rfl
  | some line =>
      have hzero : line ≠ 0 := by
        rintro rfl
        exact diagnostic.line_ne_zero hline
      exact .inr ⟨line, line.repr, _, rfl, Nat.pos_of_ne_zero hzero, isNumeral_repr hzero,
        text_of_line hline⟩

/-- The text of a diagnostic begins with a letter. -/
lemma exists_first_text (diagnostic : Diagnostic) :
    ∃ first, diagnostic.text.toList.head? = some first ∧ first.isAlpha = true ∧
      isBlank first = false := by
  rcases diagnostic.text_cases with htext | ⟨line, numeral, message, -, -, -, htext⟩
  · exact ⟨'P', by rw [htext]; rfl, by decide, by decide⟩
  · refine ⟨'l', ?_, by decide, by decide⟩
    rw [htext, String.toList_append, String.toList_append, String.toList_append]
    rfl

/-- No end of a diagnostic's text is blank. -/
lemma bare_text (diagnostic : Diagnostic) : Bare diagnostic.text.toList := by
  obtain ⟨first, hfirst, -, hblank⟩ := diagnostic.exists_first_text
  obtain ⟨last, hlast, hblank'⟩ := diagnostic.violation.exists_last_message
  refine bare_of_ends hfirst ?_ hblank hblank'
  cases hline : diagnostic.line with
  | none => rw [text_of_line_eq_none hline, hlast]
  | some line =>
      rw [text_of_line hline, String.toList_append, List.getLast?_append, hlast, Option.some_or]

end Diagnostic

/-! ## Answers -/

namespace Answer

/-- No end of an answer's text is blank. -/
lemma bare_text (answer : Answer) : Bare answer.text.toList := by
  cases answer with
  | accepted outline => exact outline.bare_dump
  | rejected diagnostic => exact diagnostic.bare_text

/-- An answer's text is not empty. -/
lemma text_ne_empty (answer : Answer) : answer.text ≠ "" := by
  intro hempty
  have hnone : answer.text.toList.head? = none := by rw [hempty]; rfl
  cases answer with
  | accepted outline => exact nomatch outline.head?_dump.symm.trans hnone
  | rejected diagnostic =>
      obtain ⟨first, hfirst, -, -⟩ := diagnostic.exists_first_text
      exact nomatch hfirst.symm.trans hnone

/-- **An answer is stored as it is**, with one newline behind it. -/
lemma storedAnswer_text (answer : Answer) : storedAnswer answer.text = answer.text ++ "\n" := by
  have hsource : storedSource answer.text = answer.text := by
    apply String.toList_injective
    rw [toList_storedSource, answer.bare_text.trim_eq]
  have hne : storedSource answer.text ≠ "" := by
    rw [hsource]
    exact answer.text_ne_empty
  rw [storedAnswer_of_ne_empty hne, hsource]

/-- The first character of a text tells whether the program is accepted. -/
lemma head?_text_eq_dash_iff (answer : Answer) :
    answer.text.toList.head? = some '-' ↔ answer.isAccepted = true := by
  cases answer with
  | accepted outline => exact iff_of_true outline.head?_dump rfl
  | rejected diagnostic =>
      obtain ⟨first, hfirst, halpha, -⟩ := diagnostic.exists_first_text
      refine iff_of_false ?_ Bool.false_ne_true
      rw [text, hfirst]
      rintro ⟨⟩
      exact absurd halpha (by decide)

end Answer

/-- How an answer is stored, and what its text tells. -/
structure StoredWhole (answer : Answer) : Prop where
  /-- The whole text is stored, with one newline behind it. -/
  stored_eq : storedAnswer answer.text = answer.text ++ "\n"
  /-- Something is stored. -/
  stored_ne_empty : storedAnswer answer.text ≠ ""
  /-- What is stored does not end in two newlines. -/
  not_two_newlines : ¬ ['\n', '\n'] <:+ (storedAnswer answer.text).toList
  /-- An outline is stored between the library functions and the end of the global scope. -/
  accepted : ∀ outline, answer = .accepted outline → ∃ inner, storedAnswer answer.text =
    "---begin global scope---\nprint (string) -> void\nprinti (int) -> void\n" ++ inner ++
      "---end global scope---\n"
  /-- A diagnostic is stored behind its line, which is at least one, or is that of a missing entry
  point. -/
  rejected : ∀ diagnostic, answer = .rejected diagnostic →
    answer.text = "Program has no 'void main()' function" ∨
      ∃ line numeral message, diagnostic.line = some line ∧ 1 ≤ line ∧
        IsNumeral numeral.toList line ∧ answer.text = "line " ++ numeral ++ ": " ++ message
  /-- No answer of the other kind has the text, nor is one stored alike. -/
  kind : ∀ other : Answer, other.isAccepted ≠ answer.isAccepted →
    other.text ≠ answer.text ∧ storedAnswer other.text ≠ storedAnswer answer.text

/-- **Every answer is stored whole**, whatever blanks and newlines its names hold: as its text and
one newline. Outlines have their frame and diagnostics their line, so no text is that of an outline
and of a diagnostic. -/
theorem storedWhole (answer : Answer) : StoredWhole answer := by
  have hstored := answer.storedAnswer_text
  refine
    { stored_eq := hstored
      stored_ne_empty := ?_
      not_two_newlines := ?_
      accepted := ?_
      rejected := ?_
      kind := ?_ }
  · rw [hstored]
    simp
  · rw [hstored, String.toList_append]
    rintro ⟨front, hfront⟩
    -- the newline before the last would end the text itself
    have htext : answer.text.toList = front ++ ['\n'] := by
      have hlast := hfront.symm
      rw [← List.singleton_append, ← List.append_assoc] at hlast
      exact List.append_cancel_right hlast
    have hblank := answer.bare_text.last '\n' (by rw [htext]; exact List.getLast?_concat)
    exact absurd hblank (by decide)
  · rintro outline rfl
    refine ⟨terminatedText (outline.signatures.map Signature.display) ++ outline.scopesText, ?_⟩
    rw [hstored, Answer.text, outline.dump_eq_framed, String.append_assoc]
    rfl
  · rintro diagnostic rfl
    exact diagnostic.text_cases
  · intro other hkind
    have htext : other.text ≠ answer.text := by
      intro heq
      apply hkind
      rw [Bool.eq_iff_iff, ← Answer.head?_text_eq_dash_iff, ← Answer.head?_text_eq_dash_iff, heq]
    refine ⟨htext, ?_⟩
    rw [hstored, other.storedAnswer_text]
    exact fun heq => htext (String.append_left_inj _ |>.mp heq)

end Conformance
