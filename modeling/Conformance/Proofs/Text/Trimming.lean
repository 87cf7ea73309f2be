import Conformance.Text.Blank
import Mathlib.Data.List.DropRight
import Mathlib.Tactic.Lemma

/-!
# What trimming takes and what it leaves

A text is what trimming leaves of it between the blanks that it takes.

* **What is taken** (`leadingBlanks`, `trailingBlanks`): the runs of blanks at the two ends; a text
  of blanks alone is all leading ones. With what is left between them they are the text
  (`eq_append_trim`).
* **What is left** (`exists_cons_eq_trim`, `exists_concat_eq_trim`): if anything is left, neither
  its first nor its last character is blank.
-/

namespace Conformance.Text

/-- The blanks that trimming takes from the beginning of a text. -/
def leadingBlanks (text : List Char) : List Char :=
  text.takeWhile isBlank

/-- The blanks that trimming takes from the end of a text. -/
def trailingBlanks (text : List Char) : List Char :=
  (text.dropWhile isBlank).rtakeWhile isBlank

/-- Leading blanks are blank. -/
lemma isBlank_of_mem_leadingBlanks {text : List Char} {c : Char} (h : c ∈ leadingBlanks text) :
    isBlank c = true :=
  List.mem_takeWhile_imp h

/-- Trailing blanks are blank. -/
lemma isBlank_of_mem_trailingBlanks {text : List Char} {c : Char} (h : c ∈ trailingBlanks text) :
    isBlank c = true :=
  List.mem_rtakeWhile_imp h

/-- **A text** is what trimming leaves of it between the blanks that it takes. -/
lemma eq_append_trim (text : List Char) :
    text = leadingBlanks text ++ (trim text ++ trailingBlanks text) := by
  have hrest : trim text ++ trailingBlanks text = text.dropWhile isBlank :=
    List.rdropWhile_append_rtakeWhile
  rw [hrest]
  exact List.takeWhile_append_dropWhile.symm

/-- What trimming leaves begins with a character that is not blank. -/
lemma exists_cons_eq_trim {text : List Char} (h : trim text ≠ []) :
    ∃ first rest, trim text = first :: rest ∧ isBlank first = false := by
  obtain ⟨first, rest, hcore⟩ := List.exists_cons_of_ne_nil h
  refine ⟨first, rest, hcore, ?_⟩
  have hfirst : (text.dropWhile isBlank).head? = some first := by
    have hprefix : trim text <+: text.dropWhile isBlank := List.rdropWhile_prefix isBlank _
    rw [hcore] at hprefix
    obtain ⟨more, hmore⟩ := hprefix
    rw [← hmore]
    rfl
  simpa [hfirst] using List.head?_dropWhile_not isBlank text

/-- What trimming leaves ends with a character that is not blank. -/
lemma exists_concat_eq_trim {text : List Char} (h : trim text ≠ []) :
    ∃ front last, trim text = front ++ [last] ∧ isBlank last = false := by
  refine ⟨(trim text).dropLast, (trim text).getLast h, (List.dropLast_concat_getLast h).symm, ?_⟩
  exact Bool.eq_false_iff.mpr (List.rdropWhile_last_not isBlank _ h)

end Conformance.Text
