import Conformance.Text.Lines
import Mathlib.Data.List.Basic
import Mathlib.Tactic.Lemma

/-!
# The place of a line in its text

The place of a line is found by adding up the bytes of the lines before it. What it says of the
text is read off a cut of the text at that line.

* **Cuts** (`LineCut`): the lines before a line, the line and the lines after it, with the number,
  the position and the bytes that they give the line.
* **The text of a cut** (`LineCut.text_eq`): a newline follows each line before, and one stands
  before each line after; no line holds one (`newline_notMem_of_mem_lines`).
* **Main statement** (`lineSpan?_eq_some_iff`): the places of lines are those of the cuts.
* **Bytes and characters** (`length_le_byteLength`, `byteLength_eq_length`): a text has at least as
  many bytes as characters, and as many just if each takes one.
-/

namespace Conformance.Text

/-! ## Cuts -/

/-- A text cut at one of its lines. -/
structure LineCut (text : List Char) where
  /-- The lines before it. -/
  before : List (List Char)
  /-- The line. -/
  line : List Char
  /-- The lines after it. -/
  after : List (List Char)
  /-- They are all the lines of the text. -/
  lines_eq : lines text = before ++ line :: after

/-- Lines, each with a newline at its end. -/
def terminated (lines : List (List Char)) : List Char :=
  lines.flatMap (· ++ ['\n'])

/-- The lines of a text put together, with a newline before each. -/
def preceded (lines : List (List Char)) : List Char :=
  lines.flatMap ('\n' :: ·)

/-- The first line and its newline come before the others. -/
lemma terminated_cons (line : List Char) (lines : List (List Char)) :
    terminated (line :: lines) = line ++ '\n' :: terminated lines := by
  simp [terminated]

namespace LineCut

variable {text : List Char} (cut : LineCut text)

/-- The number of the line, counted from one. -/
def number : Nat :=
  cut.before.length + 1

/-- The position of the line's first character. -/
def offset : Nat :=
  (terminated cut.before).length

/-- The bytes that the line takes. -/
def span : Span :=
  ⟨byteLength (terminated cut.before),
    byteLength (terminated cut.before) + byteLength cut.line⟩

end LineCut

/-! ## The text of a cut -/

/-- Lines with a newline between them, put together at one of them. -/
lemma intercalate_append_cons (before : List (List Char)) (line : List Char)
    (after : List (List Char)) :
    ['\n'].intercalate (before ++ line :: after) =
      terminated before ++ (line ++ preceded after) := by
  induction before with
  | nil =>
      induction after generalizing line with
      | nil => simp [terminated, preceded]
      | cons next after ih =>
          have hnext := ih next
          rw [List.nil_append] at hnext ⊢
          rw [List.intercalate_cons_cons, hnext]
          simp [terminated, preceded]
  | cons first before ih =>
      obtain ⟨second, rest, hrest⟩ := List.exists_cons_of_ne_nil
        (List.append_ne_nil_of_right_ne_nil before (List.cons_ne_nil line after))
      rw [List.cons_append, hrest, List.intercalate_cons_cons, ← hrest, ih, terminated_cons]
      simp

/-- **The text of a cut**: a newline follows each line before, and one stands before each line
after. -/
lemma LineCut.text_eq {text : List Char} (cut : LineCut text) :
    text = terminated cut.before ++ (cut.line ++ preceded cut.after) := by
  rw [← intercalate_append_cons, ← cut.lines_eq, lines, List.intercalate_splitOn]

/-- A line holds no newline. -/
lemma newline_notMem_of_mem_lines {text line : List Char} (h : line ∈ lines text) :
    '\n' ∉ line := by
  induction text generalizing line with
  | nil =>
      rw [lines, List.splitOn_nil, List.mem_singleton] at h
      exact h ▸ List.not_mem_nil
  | cons c rest ih =>
      rw [lines, List.splitOn_cons_eq_if_modifyHead] at h
      split at h
      case isTrue =>
        rcases List.mem_cons.mp h with rfl | h
        · exact List.not_mem_nil
        · exact ih h
      case isFalse hc =>
        obtain ⟨first, others, hlines⟩ :=
          List.exists_cons_of_ne_nil (List.splitOn_ne_nil '\n' rest)
        rw [hlines, List.modifyHead_cons] at h
        rcases List.mem_cons.mp h with rfl | h
        · have hfirst : '\n' ∉ first := ih (by rw [lines, hlines]; exact List.mem_cons_self)
          have hne : '\n' ≠ c := fun hnewline => hc (beq_iff_eq.mpr hnewline.symm)
          exact List.not_mem_cons_of_ne_of_not_mem hne hfirst
        · exact ih (by rw [lines, hlines]; exact List.mem_cons_of_mem _ h)

/-! ## Places -/

/-- A line at an index has the bytes after those of the lines before it and their newlines. -/
lemma spanAt?_eq_some_iff (start : Nat) (lines : List (List Char)) (index : Nat) (span : Span) :
    spanAt? start lines index = some span ↔
      ∃ before line after, lines = before ++ line :: after ∧ before.length = index ∧
        span = ⟨start + byteLength (terminated before),
          start + byteLength (terminated before) + byteLength line⟩ := by
  fun_induction spanAt? start lines index with
  | case1 => simp
  | case2 start line others =>
      constructor
      · intro h
        exact ⟨[], line, others, rfl, rfl, (Option.some.inj h).symm⟩
      · rintro ⟨before, line', after, hlines, hlength, rfl⟩
        obtain rfl := List.length_eq_zero_iff.mp hlength
        cases hlines
        rfl
  | case3 start line others index ih =>
      rw [ih]
      constructor
      · rintro ⟨before, line', after, rfl, rfl, rfl⟩
        refine ⟨line :: before, line', after, rfl, rfl, ?_⟩
        simp [terminated_cons, byteLength, Nat.add_assoc, show '\n'.utf8Size = 1 from rfl]
      · rintro ⟨before, line', after, hlines, hlength, rfl⟩
        cases before with
        | nil => cases hlength
        | cons first before =>
            cases hlines
            refine ⟨before, line', after, rfl, Nat.succ.inj hlength, ?_⟩
            simp [terminated_cons, byteLength, Nat.add_assoc, show '\n'.utf8Size = 1 from rfl]

/-- **The places of lines** are those of the cuts. -/
lemma lineSpan?_eq_some_iff (text : List Char) (number : Nat) (span : Span) :
    lineSpan? text number = some span ↔
      ∃ cut : LineCut text, cut.number = number ∧ cut.span = span := by
  cases number with
  | zero => simp [lineSpan?, LineCut.number]
  | succ index =>
      rw [lineSpan?, spanAt?_eq_some_iff]
      constructor
      · rintro ⟨before, line, after, hlines, rfl, rfl⟩
        exact ⟨⟨before, line, after, hlines⟩, rfl, by simp [LineCut.span]⟩
      · rintro ⟨cut, hnumber, rfl⟩
        exact ⟨cut.before, cut.line, cut.after, cut.lines_eq, Nat.succ.inj hnumber,
          by simp [LineCut.span]⟩

/-! ## Bytes and characters -/

/-- A text has at least as many bytes as characters. -/
lemma length_le_byteLength (text : List Char) : text.length ≤ byteLength text := by
  induction text with
  | nil => exact Nat.le_refl _
  | cons c rest ih =>
      have := c.utf8Size_pos
      simp only [List.length_cons, byteLength]
      omega

/-- A text of characters of one byte has as many bytes as characters. -/
lemma byteLength_eq_length {text : List Char} (h : ∀ c ∈ text, c.utf8Size = 1) :
    byteLength text = text.length := by
  induction text with
  | nil => rfl
  | cons c rest ih =>
      obtain ⟨hc, hrest⟩ := List.forall_mem_cons.mp h
      rw [byteLength, hc, ih hrest, List.length_cons, Nat.add_comm]

namespace LineCut

variable {text : List Char} (cut : LineCut text)

/-- The characters of a text are those before the line and those from it on. -/
lemma length_eq : text.length = cut.offset + (cut.line ++ preceded cut.after).length := by
  rw [offset, ← List.length_append, ← cut.text_eq]

/-- The bytes of a line begin at its position or after it. -/
lemma offset_le_start : cut.offset ≤ cut.span.start :=
  length_le_byteLength _

/-- The bytes of a line are at least as many as its characters. -/
lemma start_add_length_le_stop : cut.span.start + cut.line.length ≤ cut.span.stop :=
  Nat.add_le_add_left (length_le_byteLength _) _

end LineCut

end Conformance.Text
