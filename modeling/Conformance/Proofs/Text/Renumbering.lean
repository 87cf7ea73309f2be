import Conformance.Answer
import Conformance.Proofs.Text.LineTable
import Conformance.Proofs.Text.Trimming

/-!
# Lines of a trimmed text

A source is stored without the blanks at its ends. Newlines are blanks too, so lines disappear with
them, and the cut may fall in the middle of a line.

* **Lines of two texts** (`lines_append`): where two texts meet, the last line of the first and the
  first line of the second become one; the other lines stay as they are.
* **More text in front or behind** (`getElem?_lines_append_left`, `getElem?_lines_append_right`):
  hence the lines of a text are found again when more text is put around it, by as many lines later
  as there are newlines in front. Only the first and the last of them get longer.
* **Main statement** (`storedSource_renumbers`): the lines of a stored source are those of the
  source, by as many lines later as there are newlines among the leading blanks. The first may have
  blanks before it and the last blanks after it, and all other lines of the source are blank.
-/

namespace Conformance.Text

/-! ## Lines of two texts -/

/-- A text is its lines with newlines between them, whichever of them is looked at. -/
lemma eq_of_lines_eq {text line : List Char} {before after : List (List Char)}
    (h : lines text = before ++ line :: after) :
    text = terminated before ++ (line ++ preceded after) :=
  LineCut.text_eq ⟨before, line, after, h⟩

/-- **Two texts** share the line in which they meet. -/
lemma lines_append {first second last next : List Char} {before after : List (List Char)}
    (hfirst : lines first = before ++ [last]) (hsecond : lines second = next :: after) :
    lines (first ++ second) = before ++ (last ++ next) :: after := by
  have htext : first ++ second = ['\n'].intercalate (before ++ (last ++ next) :: after) := by
    have hsecond' := @eq_of_lines_eq second next [] after hsecond
    rw [intercalate_append_cons, eq_of_lines_eq hfirst, hsecond']
    simp [terminated, preceded]
  rw [htext, lines]
  refine List.splitOn_intercalate '\n' (fun line hline => ?_) (by simp)
  have hbefore : ∀ line ∈ before ++ [last], '\n' ∉ line :=
    fun line hline => newline_notMem_of_mem_lines (hfirst ▸ hline)
  have hafter : ∀ line ∈ next :: after, '\n' ∉ line :=
    fun line hline => newline_notMem_of_mem_lines (hsecond ▸ hline)
  rcases List.mem_append.mp hline with hline | hline
  · exact hbefore line (List.mem_append_left _ hline)
  · rcases List.mem_cons.mp hline with rfl | hline
    · simp [hbefore last (by simp), hafter next (by simp)]
    · exact hafter line (List.mem_cons_of_mem _ hline)

/-- A text has a last line, and as many lines before it as newlines. -/
lemma exists_lines_eq_concat (text : List Char) :
    ∃ before last, lines text = before ++ [last] ∧ before.length = text.count '\n' := by
  have hne : lines text ≠ [] := List.splitOn_ne_nil '\n' text
  refine ⟨(lines text).dropLast, (lines text).getLast hne,
    (List.dropLast_concat_getLast hne).symm, ?_⟩
  rw [List.length_dropLast, length_lines, Nat.add_sub_cancel]

/-- A text has a first line. -/
lemma exists_lines_eq_cons (text : List Char) : ∃ next after, lines text = next :: after :=
  List.exists_cons_of_ne_nil (List.splitOn_ne_nil '\n' text)

/-- The characters of a line are in its text. -/
lemma subset_of_mem_lines {text line : List Char} (h : line ∈ lines text) : line ⊆ text := by
  obtain ⟨before, after, hlines⟩ := List.append_of_mem h
  intro c hc
  rw [eq_of_lines_eq hlines]
  simp [hc]

/-! ## More text in front or behind -/

section append

variable {first second line : List Char} {index : Nat}

/-- **A line of the second text** comes by as many lines later as there are newlines in the first,
and only its first line has more text in front. -/
lemma getElem?_lines_append_right (h : (lines second)[index]? = some line) :
    ∃ front, (lines (first ++ second))[first.count '\n' + index]? = some (front ++ line) ∧
      front ⊆ first ∧ (0 < index → front = []) := by
  obtain ⟨before, last, hfirst, hlength⟩ := exists_lines_eq_concat first
  obtain ⟨next, after, hsecond⟩ := exists_lines_eq_cons second
  rw [hsecond] at h
  rw [lines_append hfirst hsecond, List.getElem?_append_right (by omega),
    ← hlength, Nat.add_sub_cancel_left]
  cases index with
  | zero =>
      obtain rfl : next = line := by simpa using h
      exact ⟨last, by simp, subset_of_mem_lines (hfirst ▸ by simp), by simp⟩
  | succ index => exact ⟨[], by simpa using h, by simp, by simp⟩

/-- **A line of the first text** keeps its number, and only its last line has more text behind. -/
lemma getElem?_lines_append_left (h : (lines first)[index]? = some line) :
    ∃ back, (lines (first ++ second))[index]? = some (line ++ back) ∧
      back ⊆ second ∧ (index < first.count '\n' → back = []) := by
  obtain ⟨before, last, hfirst, hlength⟩ := exists_lines_eq_concat first
  obtain ⟨next, after, hsecond⟩ := exists_lines_eq_cons second
  rw [hfirst] at h
  rw [lines_append hfirst hsecond, ← hlength]
  by_cases hindex : index < before.length
  · rw [List.getElem?_append_left hindex] at h ⊢
    exact ⟨[], by simpa using h, by simp, by simp⟩
  · have hlast : index = before.length := by
      have hlt := (List.getElem?_eq_some_iff.mp h).1
      rw [List.length_append, List.length_singleton] at hlt
      omega
    subst hlast
    obtain rfl : last = line := by simpa using h
    exact ⟨next, by simp, subset_of_mem_lines (hsecond ▸ by simp), by simp⟩

/-- A line before the one in which two texts meet is in the first text. -/
lemma subset_of_lt_count (hindex : index < first.count '\n')
    (h : (lines (first ++ second))[index]? = some line) : line ⊆ first := by
  obtain ⟨before, last, hfirst, hlength⟩ := exists_lines_eq_concat first
  obtain ⟨next, after, hsecond⟩ := exists_lines_eq_cons second
  rw [lines_append hfirst hsecond, List.getElem?_append_left (by omega)] at h
  apply subset_of_mem_lines
  rw [hfirst]
  exact List.mem_append_left _ (List.mem_of_getElem? h)

/-- A line after the one in which two texts meet is in the second text. -/
lemma subset_of_count_lt (hindex : first.count '\n' < index)
    (h : (lines (first ++ second))[index]? = some line) : line ⊆ second := by
  obtain ⟨before, last, hfirst, hlength⟩ := exists_lines_eq_concat first
  obtain ⟨next, after, hsecond⟩ := exists_lines_eq_cons second
  obtain ⟨more, rfl⟩ : ∃ more, index = before.length + (more + 1) :=
    ⟨index - before.length - 1, by omega⟩
  rw [lines_append hfirst hsecond, List.getElem?_append_right (by omega),
    Nat.add_sub_cancel_left, List.getElem?_cons_succ] at h
  apply subset_of_mem_lines
  rw [hsecond]
  exact List.mem_cons_of_mem _ (List.mem_of_getElem? h)

end append

/-! ## Stored sources -/

/-- The number of lines by which the lines of a source come later than those of its stored form: the
newlines among its leading blanks. -/
def lineShift (source : String) : Nat :=
  (leadingBlanks source.toList).count '\n'

/-- How the lines of a stored source lie in the source. -/
structure Renumbers (source stored : String) (shift : Nat) : Prop where
  /-- What is stored stands between blanks in the source, with `shift` newlines before it. -/
  between : ∃ before after, source.toList = before ++ (stored.toList ++ after) ∧
    (∀ c ∈ before, isBlank c = true) ∧ (∀ c ∈ after, isBlank c = true) ∧
      before.count '\n' = shift
  /-- Each line of what is stored is that line of the source that comes `shift` lines later, except
  that blanks may stand before the first and after the last. -/
  lineText : ∀ number, 1 ≤ number → number ≤ 1 + stored.toList.count '\n' →
    ∃ text front back, lineText? stored.toList number = some text ∧
      lineText? source.toList (number + shift) = some (front ++ text ++ back) ∧
        (∀ c ∈ front, isBlank c = true) ∧ (∀ c ∈ back, isBlank c = true) ∧
          (1 < number → front = []) ∧ (number < 1 + stored.toList.count '\n' → back = [])
  /-- All other lines of the source are blank. -/
  blank : ∀ number text, lineText? source.toList number = some text →
    number < 1 + shift ∨ 1 + stored.toList.count '\n' + shift < number →
      ∀ c ∈ text, isBlank c = true
  /-- The first line of what is stored is in the first line of the source that is not blank. -/
  first : ∃ text, lineText? source.toList (1 + shift) = some text ∧ ∃ c ∈ text, isBlank c = false

/-- The first line of a text that begins with a character other than a newline has that
character. -/
lemma exists_mem_first_line {c : Char} (hc : c ≠ '\n') (rest : List Char) :
    ∃ line, (lines (c :: rest))[0]? = some line ∧ c ∈ line := by
  have hsingle : lines [c] = [] ++ [[c]] := List.splitOn_eq_singleton (by simpa using hc.symm)
  obtain ⟨next, after, hrest⟩ := exists_lines_eq_cons rest
  refine ⟨[c] ++ next, ?_, by simp⟩
  rw [← List.singleton_append, lines_append hsingle hrest]
  rfl

/-- The line with a number is there if a line has its index. -/
lemma lineText?_eq_some {text line : List Char} {number index : Nat} (hnumber : number = index + 1)
    (h : (lines text)[index]? = some line) : lineText? text number = some line := by
  rw [hnumber, lineText?_succ, h]

/-- A line that is there has a number from one on, and is found at its index. -/
lemma exists_index_of_lineText? {text line : List Char} {number : Nat}
    (h : lineText? text number = some line) :
    ∃ index, number = index + 1 ∧ (lines text)[index]? = some line := by
  cases number with
  | zero => simp [lineText?, lineSpan?] at h
  | succ index => exact ⟨index, rfl, by rwa [lineText?_succ] at h⟩

/-- **Blanks around a text** renumber its lines, if it does not begin with a blank itself. -/
lemma renumbers_of_between {source stored : String} {before after rest : List Char} {c : Char}
    (hsource : source.toList = before ++ (stored.toList ++ after))
    (hbefore : ∀ c ∈ before, isBlank c = true) (hafter : ∀ c ∈ after, isBlank c = true)
    (hstored : stored.toList = c :: rest) (hc : isBlank c = false) :
    Renumbers source stored (before.count '\n') := by
  refine ⟨⟨before, after, hsource, hbefore, hafter, rfl⟩, ?_, ?_, ?_⟩
  · intro number hpos hle
    obtain ⟨index, rfl⟩ : ∃ index, number = index + 1 := ⟨number - 1, by omega⟩
    have hindex : index < (lines stored.toList).length := by
      rw [length_lines]
      omega
    have hline := List.getElem?_eq_getElem hindex
    obtain ⟨back, hback, hsubset, hlast⟩ := @getElem?_lines_append_left _ after _ _ hline
    obtain ⟨front, hfront, hsubset', hfirst⟩ := @getElem?_lines_append_right before _ _ _ hback
    rw [← hsource] at hfront
    refine ⟨_, front, back, lineText?_eq_some rfl hline, ?_, fun c hc => hbefore c (hsubset' hc),
      fun c hc => hafter c (hsubset hc), fun hlt => hfirst (by omega), fun hlt => hlast (by omega)⟩
    rw [List.append_assoc]
    exact lineText?_eq_some (by omega) hfront
  · intro number text htext hother
    obtain ⟨index, rfl, hline⟩ := exists_index_of_lineText? htext
    rcases hother with hlt | hgt
    · rw [hsource] at hline
      have hsubset := subset_of_lt_count (by omega) hline
      exact fun c hc => hbefore c (hsubset hc)
    · rw [hsource, ← List.append_assoc] at hline
      have hsubset := subset_of_count_lt (by rw [List.count_append]; omega) hline
      exact fun c hc => hafter c (hsubset hc)
  · have hnewline : c ≠ '\n' := by
      rintro rfl
      exact absurd hc (by decide)
    obtain ⟨line, hline, hmem⟩ := exists_mem_first_line hnewline (rest ++ after)
    rw [← List.cons_append, ← hstored] at hline
    obtain ⟨front, hfront, -, -⟩ := @getElem?_lines_append_right before _ _ _ hline
    rw [← hsource] at hfront
    exact ⟨front ++ line, lineText?_eq_some (by omega) hfront, c, by simp [hmem], hc⟩

/-- **Storing a source renumbers its lines** by a constant: unless nothing is stored, every line of
what is stored is the line of the source that comes later by the newlines among the leading
blanks. -/
theorem storedSource_renumbers {source : String} (h : storedSource source ≠ "") :
    Renumbers source (storedSource source) (lineShift source) := by
  have hstored : (storedSource source).toList = trim source.toList := String.toList_ofList
  have hne : trim source.toList ≠ [] := by
    intro hnil
    rw [storedSource, hnil] at h
    exact h rfl
  obtain ⟨first, rest, htrim, hfirst⟩ := exists_cons_eq_trim hne
  have hsource : source.toList = leadingBlanks source.toList ++
      ((storedSource source).toList ++ trailingBlanks source.toList) := by
    rw [hstored]
    exact eq_append_trim source.toList
  exact renumbers_of_between hsource (fun c hc => isBlank_of_mem_leadingBlanks hc)
    (fun c hc => isBlank_of_mem_trailingBlanks hc) (hstored.trans htrim) hfirst

/-- A source whose first line that is not blank is the third, with a no-break space before it and a
line separator after its last line. -/
theorem storedSource_renumbers_spaced :
    storedSource "\n \n\u00a0a\n\nb\u2028 \n" = "a\n\nb" ∧
      lineShift "\n \n\u00a0a\n\nb\u2028 \n" = 2 ∧
      Renumbers "\n \n\u00a0a\n\nb\u2028 \n" "a\n\nb" 2 := by
  have hstored : storedSource "\n \n\u00a0a\n\nb\u2028 \n" = "a\n\nb" := by decide +kernel
  have hshift : lineShift "\n \n\u00a0a\n\nb\u2028 \n" = 2 := by decide +kernel
  have hne : storedSource "\n \n\u00a0a\n\nb\u2028 \n" ≠ "" := by
    rw [hstored]
    decide
  have hrenumbers := storedSource_renumbers hne
  rw [hstored, hshift] at hrenumbers
  exact ⟨hstored, hshift, hrenumbers⟩

end Conformance.Text
