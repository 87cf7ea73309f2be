import Conformance.Proofs.Text.LineCuts

/-!
# The table of lines

What the places of all lines of a text, taken together, say about the text.

* **Numbers** (`exists_cut_iff`, `length_lines`): lines are numbered from one, and there is one line
  more than there are newlines.
* **Slices** (`slice_eq`): the characters between two boundaries of a text are those that stand
  between them, so the bytes of a line hold the line, and what comes before and after them is read
  off the cut (`LineCut.slice_span`, `LineCut.slice_before`, `LineCut.slice_after`).
* **One line** (`IsLine`): its bytes lie between boundaries of characters, hold no newline and have
  newlines or the ends of the text around them, as many of them before as the number of the line
  asks for.
* **All lines** (`IsLineTable`): there are lines of just the right numbers, one byte apart, and
  together they give back the text.
* **Main statement** (`isLineTable_lineSpan?`): the places of lines are such a table for every text.
-/

namespace Conformance.Text

/-! ## Numbers -/

/-- A text has one line more than it has newlines. -/
lemma length_lines (text : List Char) : (lines text).length = text.count '\n' + 1 := by
  induction text with
  | nil => simp [lines]
  | cons c rest ih =>
      unfold lines at ih ⊢
      rw [List.splitOn_cons_eq_if_modifyHead, List.count_cons]
      split <;> simp_all

/-- The lines of a text can be cut at each number up to that of the last one. -/
lemma exists_cut_iff (text : List Char) (number : Nat) :
    (∃ cut : LineCut text, cut.number = number) ↔
      1 ≤ number ∧ number ≤ 1 + text.count '\n' := by
  have hlength := length_lines text
  constructor
  · rintro ⟨cut, rfl⟩
    rw [cut.lines_eq, List.length_append, List.length_cons] at hlength
    unfold LineCut.number
    omega
  · rintro ⟨hpos, hle⟩
    have hlt : number - 1 < (lines text).length := by omega
    refine ⟨⟨(lines text).take (number - 1), (lines text)[number - 1],
      (lines text).drop (number - 1 + 1), ?_⟩, ?_⟩
    · rw [List.getElem_cons_drop, List.take_append_drop]
    · unfold LineCut.number
      rw [List.length_take]
      omega

/-- The place of the cut at a number is the place of that line. -/
lemma LineCut.lineSpan?_number {text : List Char} (cut : LineCut text) :
    lineSpan? text cut.number = some cut.span :=
  (lineSpan?_eq_some_iff text cut.number cut.span).mpr ⟨cut, rfl, rfl⟩

/-! ## Slices -/

/-- What stands before a span is left out of its slice. -/
lemma slice_go_append {span : Span} (h : span.start ≤ span.stop) (before rest : List Char)
    (place : Nat) (hbefore : place + byteLength before ≤ span.start) :
    slice.go span place (before ++ rest) = slice.go span (place + byteLength before) rest := by
  induction before generalizing place with
  | nil => simp [byteLength]
  | cons c before ih =>
      have hc := c.utf8Size_pos
      simp only [byteLength] at hbefore ⊢
      rw [List.cons_append, slice.go, if_neg (by omega), if_neg (by omega),
        ih (place + c.utf8Size) (by omega), Nat.add_assoc]

/-- What stands in a span up to its end is its slice. -/
lemma slice_go_eq {span : Span} (part rest : List Char) (place : Nat)
    (hstart : span.start ≤ place) (hstop : place + byteLength part = span.stop) :
    slice.go span place (part ++ rest) = part := by
  induction part generalizing place with
  | nil =>
      have hend : span.stop ≤ place := by simp [← hstop, byteLength]
      cases rest with
      | nil => rfl
      | cons c rest => rw [List.nil_append, slice.go, if_pos hend]
  | cons c part ih =>
      have hc := c.utf8Size_pos
      simp only [byteLength] at hstop
      rw [List.cons_append, slice.go, if_neg (by omega), if_pos hstart,
        ih (place + c.utf8Size) (by omega) (by omega)]

/-- **The slice between two boundaries** is what stands between them. -/
lemma slice_eq {text before part after : List Char} (h : text = before ++ (part ++ after)) :
    slice text ⟨byteLength before, byteLength before + byteLength part⟩ = part := by
  rw [h, slice, slice_go_append (by simp) before _ 0 (by simp)]
  exact slice_go_eq part after _ (by simp) (by simp)

namespace LineCut

variable {text : List Char} (cut : LineCut text)

/-- The bytes of a line hold the line. -/
lemma slice_span : slice text cut.span = cut.line :=
  slice_eq cut.text_eq

/-- The bytes before a line hold the lines before it, each with its newline. -/
lemma slice_before : slice text ⟨0, cut.span.start⟩ = terminated cut.before := by
  have htext : text = [] ++ (terminated cut.before ++ (cut.line ++ preceded cut.after)) :=
    cut.text_eq
  have hslice := slice_eq htext
  rwa [byteLength, Nat.zero_add] at hslice

/-- The bytes of a text are those up to the end of a line and those after it. -/
lemma byteLength_eq : byteLength text = cut.span.stop + byteLength (preceded cut.after) := by
  conv_lhs => rw [cut.text_eq]
  simp [span, Nat.add_assoc]

/-- The bytes after a line hold the lines after it, each behind its newline. -/
lemma slice_after : slice text ⟨cut.span.stop, byteLength text⟩ = preceded cut.after := by
  have htext : text = (terminated cut.before ++ cut.line) ++ (preceded cut.after ++ []) := by
    simpa using cut.text_eq
  have hslice := slice_eq htext
  have hstop : byteLength (terminated cut.before ++ cut.line) = cut.span.stop :=
    byteLength_append _ _
  rwa [hstop, ← cut.byteLength_eq] at hslice

end LineCut

/-! ## One line -/

/-- What the place of a line says about its text. -/
structure IsLine (source : String) (number : Nat) (span : Span) : Prop where
  /-- The line does not end before it begins. -/
  start_le_stop : span.start ≤ span.stop
  /-- It ends in the text. -/
  stop_le : span.stop ≤ source.utf8ByteSize
  /-- It begins at the boundary of a character. -/
  start_isValid : String.Pos.Raw.IsValid source ⟨span.start⟩
  /-- It ends at the boundary of a character. -/
  stop_isValid : String.Pos.Raw.IsValid source ⟨span.stop⟩
  /-- It holds no newline. -/
  newline_notMem : '\n' ∉ slice source.toList span
  /-- It begins where the text does, or after a newline. -/
  start_eq : span.start = 0 ∨ (slice source.toList ⟨0, span.start⟩).getLast? = some '\n'
  /-- It ends where the text does, or before a newline. -/
  stop_eq : span.stop = source.utf8ByteSize ∨
    (slice source.toList ⟨span.stop, source.utf8ByteSize⟩).head? = some '\n'
  /-- The newlines before it are one less than its number. -/
  number_eq : number = (slice source.toList ⟨0, span.start⟩).count '\n' + 1

/-- A text has a boundary of a character after each of its beginnings. -/
lemma isValid_byteLength {source : String} {before after : List Char}
    (h : source.toList = before ++ after) : String.Pos.Raw.IsValid source ⟨byteLength before⟩ := by
  apply String.Pos.Raw.isValid_iff_exists_append.mpr
  refine ⟨String.ofList before, String.ofList after, ?_, ?_⟩
  · rw [← String.ofList_append, ← h, String.ofList_toList]
  · have hsize := byteLength_toList (String.ofList before)
    rw [String.toList_ofList] at hsize
    rw [hsize]
    rfl

/-- Lines that hold no newline have as many newlines after them as they are. -/
lemma count_terminated {lines : List (List Char)} (h : ∀ line ∈ lines, '\n' ∉ line) :
    (terminated lines).count '\n' = lines.length := by
  induction lines with
  | nil => rfl
  | cons line lines ih =>
      obtain ⟨hline, hlines⟩ := List.forall_mem_cons.mp h
      rw [terminated_cons, List.count_append, List.count_cons_self, ih hlines,
        List.count_eq_zero_of_not_mem hline, List.length_cons, Nat.zero_add]

/-- The lines before a line end in a newline, if there are any. -/
lemma terminated_eq_nil_or (lines : List (List Char)) :
    terminated lines = [] ∨ (terminated lines).getLast? = some '\n' := by
  rcases List.eq_nil_or_concat lines with rfl | ⟨front, last, rfl⟩
  · exact .inl rfl
  · exact .inr (by simp [terminated])

/-- The lines after a line begin with a newline, if there are any. -/
lemma preceded_eq_nil_or (lines : List (List Char)) :
    preceded lines = [] ∨ (preceded lines).head? = some '\n' := by
  cases lines with
  | nil => exact .inl rfl
  | cons line lines => exact .inr rfl

/-- **The place of a cut** is that of a line. -/
lemma LineCut.isLine {source : String} (cut : LineCut source.toList) :
    IsLine source cut.number cut.span := by
  have hsize := cut.byteLength_eq
  rw [byteLength_toList] at hsize
  have hlines : ∀ line ∈ lines source.toList, '\n' ∉ line :=
    fun line hline => newline_notMem_of_mem_lines hline
  rw [cut.lines_eq] at hlines
  have htext : source.toList =
      (terminated cut.before ++ cut.line) ++ preceded cut.after := by
    rw [List.append_assoc]
    exact cut.text_eq
  refine
    { start_le_stop := Nat.le_add_right _ _
      stop_le := hsize ▸ Nat.le_add_right _ _
      start_isValid := isValid_byteLength cut.text_eq
      stop_isValid := ?_
      newline_notMem := ?_
      start_eq := ?_
      stop_eq := ?_
      number_eq := ?_ }
  · have hvalid := isValid_byteLength htext
    rwa [byteLength_append] at hvalid
  · rw [cut.slice_span]
    exact hlines _ (by simp)
  · rw [cut.slice_before]
    exact (terminated_eq_nil_or cut.before).imp_left fun hnil => by simp [span, hnil, byteLength]
  · rw [← byteLength_toList, cut.slice_after]
    exact (preceded_eq_nil_or cut.after).imp_left fun hnil => by
      rw [cut.byteLength_eq, hnil, byteLength, Nat.add_zero]
  · rw [cut.slice_before, count_terminated fun line hline => hlines line (by simp [hline])]
    rfl

/-! ## All lines -/

/-- The text of the line with a number, read off the line's place. -/
def lineText? (text : List Char) (number : Nat) : Option (List Char) :=
  (lineSpan? text number).map (slice text)

/-- The line of a cut is the text of the line with its number. -/
lemma LineCut.lineText?_number {text : List Char} (cut : LineCut text) :
    lineText? text cut.number = some cut.line := by
  rw [lineText?, cut.lineSpan?_number, Option.map_some, cut.slice_span]

/-- The texts of lines are the lines. -/
lemma lineText?_succ (text : List Char) (index : Nat) :
    lineText? text (index + 1) = (lines text)[index]? := by
  by_cases hindex : index < (lines text).length
  · obtain ⟨cut, hcut⟩ := (exists_cut_iff text (index + 1)).mpr
      ⟨Nat.succ_pos index, by rw [length_lines] at hindex; omega⟩
    have hbefore : cut.before.length = index := Nat.succ.inj hcut
    rw [← hcut, cut.lineText?_number, cut.lines_eq, ← hbefore,
      List.getElem?_append_right (Nat.le_refl _), Nat.sub_self, List.getElem?_cons_zero]
  · have hnone : lineSpan? text (index + 1) = none := by
      apply Option.eq_none_iff_forall_not_mem.mpr
      intro span hspan
      obtain ⟨cut, hcut, -⟩ := (lineSpan?_eq_some_iff _ _ _).mp hspan
      have hle := ((exists_cut_iff text _).mp ⟨cut, hcut⟩).2
      rw [length_lines] at hindex
      omega
    rw [lineText?, hnone, List.getElem?_eq_none (Nat.le_of_not_lt hindex)]
    rfl

/-- What the places of lines say about their text, taken together. -/
structure IsLineTable (source : String) (table : Nat → Option Span) : Prop where
  /-- There is a line for each number from one up to one more than the newlines. -/
  isSome_iff : ∀ number, (∃ span, table number = some span) ↔
    1 ≤ number ∧ number ≤ 1 + source.toList.count '\n'
  /-- Every place is that of a line with this number. -/
  isLine : ∀ number span, table number = some span → IsLine source number span
  /-- One byte lies between a line and the next. -/
  start_eq : ∀ number span next, table number = some span → table (number + 1) = some next →
    next.start = span.stop + 1
  /-- The lines with newlines between them are the text. -/
  intercalate_eq :
    ['\n'].intercalate ((List.range (1 + source.toList.count '\n')).filterMap fun index =>
      (table (index + 1)).map (slice source.toList)) = source.toList

/-- A line begins one byte after the line before it. -/
lemma LineCut.start_eq {text : List Char} {cut next : LineCut text}
    (h : next.number = cut.number + 1) : next.span.start = cut.span.stop + 1 := by
  have hlines := cut.lines_eq.symm.trans next.lines_eq
  have hlength : (cut.before ++ [cut.line]).length = next.before.length := by
    unfold number at h
    simp
    omega
  rw [List.append_cons] at hlines
  have hbefore : next.before = cut.before ++ [cut.line] :=
    (List.append_inj_left hlines hlength).symm
  simp [span, hbefore, terminated, byteLength, Nat.add_assoc, show '\n'.utf8Size = 1 from rfl]

/-- A list is what stands at its indices. -/
lemma filterMap_getElem?_range {α : Type} (entries : List α) :
    ((List.range entries.length).filterMap fun index => entries[index]?) = entries := by
  induction entries with
  | nil => rfl
  | cons entry entries ih =>
      rw [List.length_cons, List.range_succ_eq_map, List.filterMap_cons, List.filterMap_map]
      simpa using ih

/-- **The places of lines** make up the table of lines of every text. -/
theorem isLineTable_lineSpan? (source : String) :
    IsLineTable source (lineSpan? source.toList) := by
  refine ⟨fun number => ?_, fun number span hspan => ?_, fun number span next hspan hnext => ?_, ?_⟩
  · rw [← exists_cut_iff]
    constructor
    · rintro ⟨span, hspan⟩
      obtain ⟨cut, hnumber, -⟩ := (lineSpan?_eq_some_iff _ _ _).mp hspan
      exact ⟨cut, hnumber⟩
    · rintro ⟨cut, rfl⟩
      exact ⟨cut.span, cut.lineSpan?_number⟩
  · obtain ⟨cut, rfl, rfl⟩ := (lineSpan?_eq_some_iff _ _ _).mp hspan
    exact cut.isLine
  · obtain ⟨cut, rfl, rfl⟩ := (lineSpan?_eq_some_iff _ _ _).mp hspan
    obtain ⟨cut', hnumber, rfl⟩ := (lineSpan?_eq_some_iff _ _ _).mp hnext
    exact LineCut.start_eq hnumber
  · have htexts : ((List.range (1 + source.toList.count '\n')).filterMap fun index =>
        (lineSpan? source.toList (index + 1)).map (slice source.toList)) = lines source.toList := by
      calc
        _ = (List.range (lines source.toList).length).filterMap fun index =>
            (lines source.toList)[index]? := by
          rw [length_lines, Nat.add_comm]
          exact List.filterMap_congr fun index _ => lineText?_succ _ index
        _ = lines source.toList := filterMap_getElem?_range _
    rw [htexts, lines, List.intercalate_splitOn]

end Conformance.Text
