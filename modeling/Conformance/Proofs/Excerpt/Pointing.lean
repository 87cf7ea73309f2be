import Conformance.Proofs.Excerpt.ReportLines

/-!
# Where a report points

The place of a line is counted in bytes and newlines, and the report that shows it counts characters
and ends lines after other characters too. The report points at the line as long as the two counts
do not part.

* **Pointing** (`Marks`): the report shows the line of the diagnostic, under its number, with the
  label below it.
* **Agreement of the counts** (`Fits`): up to the line the report has the lines of the source, and
  the bytes of the line, taken for characters, are in the line. `Fits.of_oneByte` gives a condition
  on the characters for it.
* **Main statement** (`expectedReport_marks_iff`): a diagnostic without a place is told in one line
  of text, and the report of any other points at its line exactly if the counts agree there.
-/

namespace Conformance.Excerpt

/-! ## Pointing -/

/-- The report of a diagnostic points at a line of its source. -/
structure Marks (source name : String) (diagnostic : Diagnostic)
    (cut : Text.LineCut source.toList) (placement : Placement) : Prop where
  /-- The label is placed over the bytes of the line. -/
  place?_eq : place? source.toList cut.span = some placement
  /-- The report shows that placement with the message of the diagnostic. -/
  report_eq : expectedReport source name diagnostic =
    heading name ++ placement.render diagnostic.violation.message
  /-- It gives the line its number. -/
  number_eq : placement.line.number = cut.number
  /-- The line shown begins where the line does. -/
  offset_eq : placement.line.offset = cut.offset
  /-- It has all characters of the line. -/
  isPrefix : cut.line <+: placement.line.chars
  /-- The label does not reach beyond it, so that both are drawn. -/
  stop_le : placement.label.stop ≤ placement.line.chars.length

/-- The bytes of a line, taken for characters, lie in the line of a report: the lines before are cut
alike, the line holds the first of these positions, and it ends after the last one. -/
def Fits {text : List Char} (cut : Text.LineCut text) : Prop :=
  ∃ first others,
    reportLines text = cut.before.map (· ++ ['\n']) ++ first :: others ∧
      (cut.span.start < cut.offset + first.length ∨ others = []) ∧
        cut.span.stop ≤ cut.offset + first.length

/-- The label over a span in a line. -/
def Line.label (line : Line) (span : Text.Span) : Label where
  start := span.start - line.offset
  stop := span.stop - line.offset
  middle := (span.start + span.stop) / 2 - line.offset

/-- A span is placed in the line that holds its start, if the source reaches to its end. -/
lemma place?_eq_some_iff (source : List Char) (span : Text.Span) (placement : Placement) :
    place? source span = some placement ↔
      locate source span.start = some placement.line ∧
        (span.start < span.stop → (locate source (span.stop - 1)).isSome) ∧
          placement.label = placement.line.label span := by
  obtain ⟨line, label⟩ := placement
  unfold place?
  cases hline : locate source span.start with
  | none => simp
  | some found =>
      dsimp only
      split
      case isTrue hbeyond => simp [hbeyond.1, Option.isNone_iff_eq_none.mp hbeyond.2]
      case isFalse hwithin =>
        have hend : span.start < span.stop → (locate source (span.stop - 1)).isSome := by
          intro hlt
          rw [← Option.not_isNone, Bool.not_eq_true']
          exact Bool.eq_false_iff.mpr fun hnone => hwithin ⟨hlt, hnone⟩
        constructor
        · intro h
          cases h
          exact ⟨rfl, hend, rfl⟩
        · rintro ⟨hfound, -, hlabel⟩
          cases hfound
          cases hlabel
          rfl

/-! ## Lines before the line -/

/-- A piece of a text that is one line of the report is that line. -/
lemma reportLines_eq_singleton {text : List Char} (h : (reportLines text).length = 1) :
    reportLines text = [text] := by
  obtain ⟨line, hline⟩ := List.length_eq_one_iff.mp h
  have hflatten := flatten_reportLines text
  rw [hline, List.flatten_singleton] at hflatten
  rw [hline, hflatten]

/-- Lines between newlines fall into as many lines of the report only if they are cut alike. -/
lemma flatMap_reportLines_eq_map {lines : List (List Char)}
    (h : (lines.flatMap fun line => reportLines (line ++ ['\n'])).length = lines.length) :
    (lines.flatMap fun line => reportLines (line ++ ['\n'])) = lines.map (· ++ ['\n']) := by
  have atLeastOne : ∀ line : List Char, 1 ≤ (reportLines (line ++ ['\n'])).length := fun line =>
    List.length_pos_of_ne_nil (reportLines_ne_nil (by simp))
  have asMany : ∀ lines : List (List Char),
      lines.length ≤ (lines.flatMap fun line => reportLines (line ++ ['\n'])).length := by
    intro lines
    induction lines with
    | nil => exact Nat.le_refl _
    | cons line lines ih =>
        rw [List.flatMap_cons, List.length_append, List.length_cons, Nat.add_comm]
        exact Nat.add_le_add (atLeastOne line) ih
  induction lines with
  | nil => rfl
  | cons line lines ih =>
      rw [List.flatMap_cons, List.length_append, List.length_cons] at h
      have hline := atLeastOne line
      have hlines := asMany lines
      rw [List.flatMap_cons, ih (by omega), reportLines_eq_singleton (by omega), List.map_cons,
        List.singleton_append]

/-- Where a line of the report has the number and the position of a line of the source, the lines
before the two are the same. -/
lemma before_eq {text : List Char} (cut : Text.LineCut text) {before after : List (List Char)}
    (hlines : reportLines text = before ++ after) (hnumber : before.length = cut.before.length)
    (hoffset : before.flatten.length = cut.offset) :
    before = cut.before.map (· ++ ['\n']) := by
  let pieces := cut.before.flatMap fun line => reportLines (line ++ ['\n'])
  have hpieces : reportLines text =
      pieces ++ reportLines (cut.line ++ Text.preceded cut.after) := by
    rw [← reportLines_terminated_append, ← cut.text_eq]
  have hflatten : pieces.flatten = Text.terminated cut.before := by
    have := reportLines_terminated_append cut.before []
    rw [List.append_nil, reportLines, List.append_nil] at this
    rw [← flatten_reportLines (Text.terminated cut.before), this]
  have hlength : before.flatten.length = pieces.flatten.length := by
    rw [hoffset, hflatten, Text.LineCut.offset]
  have hsame : before = pieces :=
    eq_of_isPrefix_of_isPrefix ⟨after, hlines.symm⟩ ⟨_, hpieces.symm⟩
      (ne_nil_of_mem_reportLines text) hlength
  rw [hsame] at hnumber ⊢
  exact flatMap_reportLines_eq_map hnumber

/-! ## Agreement of the counts -/

/-- A line that the report points at fits. -/
lemma Marks.fits {source name : String} {diagnostic : Diagnostic}
    {cut : Text.LineCut source.toList} {placement : Placement}
    (h : Marks source name diagnostic cut placement) : Fits cut := by
  obtain ⟨hlocate, -, hlabel⟩ := (place?_eq_some_iff _ _ _).mp h.place?_eq
  obtain ⟨-, before, after, hlines, hnumber, hoffset, -, hstart⟩ :=
    (locate_eq_some_iff _ _ _).mp hlocate
  have hbefore : before = cut.before.map (· ++ ['\n']) := by
    refine before_eq cut hlines ?_ (hoffset.symm.trans h.offset_eq)
    exact Nat.succ.inj (hnumber.symm.trans h.number_eq)
  have hstop : cut.span.stop - cut.offset ≤ placement.line.chars.length := by
    have := h.stop_le
    rwa [hlabel, Line.label, h.offset_eq] at this
  rw [h.offset_eq] at hstart
  exact ⟨placement.line.chars, after, hbefore ▸ hlines, hstart.symm,
    Nat.sub_le_iff_le_add'.mp hstop⟩

/-- The report points at a line that fits. -/
lemma Fits.marks {source : String} {cut : Text.LineCut source.toList} (h : Fits cut)
    (name : String) {diagnostic : Diagnostic}
    (hspan : diagnostic.line.bind (Text.lineSpan? source.toList) = some cut.span) :
    ∃ placement, Marks source name diagnostic cut placement ∧
      placement.label = placement.line.label cut.span := by
  obtain ⟨first, others, hlines, hstart, hstop⟩ := h
  have hbefore : (cut.before.map (· ++ ['\n'])).flatten = Text.terminated cut.before :=
    List.flatMap_def.symm
  have hrest : cut.line ++ Text.preceded cut.after = first ++ others.flatten := by
    have htext := flatten_reportLines source.toList
    rw [hlines, List.flatten_append, hbefore, List.flatten_cons] at htext
    exact List.append_cancel_left (cut.text_eq.symm.trans htext.symm)
  have hlength : source.toList.length = cut.offset + (first.length + others.flatten.length) := by
    rw [cut.length_eq, hrest, List.length_append]
  have hsource : source.toList ≠ [] := fun hnil =>
    List.append_ne_nil_of_right_ne_nil _ (List.cons_ne_nil first others)
      (hlines.symm.trans (congrArg reportLines hnil))
  have hoffset := cut.offset_le_start
  have hbytes := cut.start_add_length_le_stop
  let line : Line := ⟨cut.number, cut.offset, first⟩
  have hlocate : locate source.toList cut.span.start = some line := by
    rw [locate_eq_some_iff]
    refine ⟨by omega, _, others, hlines, ?_, ?_, hoffset, hstart.symm⟩
    · rw [List.length_map]
      rfl
    · rw [hbefore]
      rfl
  have hplace : place? source.toList cut.span = some ⟨line, line.label cut.span⟩ := by
    rw [place?_eq_some_iff]
    exact ⟨hlocate, fun _ => isSome_locate hsource (by omega), rfl⟩
  refine ⟨⟨line, line.label cut.span⟩, ⟨hplace, ?_, rfl, rfl, ?_, ?_⟩, rfl⟩
  · rw [expectedReport, hspan]
    dsimp only
    rw [hplace]
  · have hshorter : cut.line.length ≤ first.length := by omega
    exact List.prefix_of_prefix_length_le (List.prefix_append cut.line _)
      (hrest ▸ List.prefix_append first _) hshorter
  · exact Nat.sub_le_iff_le_add'.mpr hstop

/-! ## Plain sources -/

/-- A text is plain up to the end of a span if its characters there take one byte each and end lines
only as newlines. -/
def Plain (text : List Char) (span : Text.Span) : Prop :=
  ∀ c ∈ text.take span.stop, c.utf8Size = 1 ∧ (endsLine c = true → c = '\n')

/-- Whether a text is plain can be seen from its characters. -/
instance instDecidablePlain (text : List Char) (span : Text.Span) : Decidable (Plain text span) :=
  List.decidableBAll _ _

namespace Plain

variable {text : List Char} {cut : Text.LineCut text}

/-- The line and what is before it are made of such characters. -/
lemma of_mem (h : Plain text cut.span) {c : Char}
    (hc : c ∈ Text.terminated cut.before ++ cut.line) :
    c.utf8Size = 1 ∧ (endsLine c = true → c = '\n') := by
  have htaken : Text.terminated cut.before ++ cut.line <+: text.take cut.span.stop := by
    rw [List.prefix_take_iff, List.length_append]
    constructor
    · exact ⟨Text.preceded cut.after, by rw [List.append_assoc, ← cut.text_eq]⟩
    · exact Nat.le_trans (Nat.add_le_add_right cut.offset_le_start _) cut.start_add_length_le_stop
  exact h c (htaken.subset hc)

/-- The bytes of the line are its positions. -/
lemma span_eq (h : Plain text cut.span) :
    cut.span = ⟨cut.offset, cut.offset + cut.line.length⟩ := by
  have hoffset : Text.byteLength (Text.terminated cut.before) = cut.offset :=
    Text.byteLength_eq_length fun c hc => (h.of_mem (List.mem_append_left _ hc)).1
  have hbytes : Text.byteLength cut.line = cut.line.length :=
    Text.byteLength_eq_length fun c hc => (h.of_mem (List.mem_append_right _ hc)).1
  rw [Text.LineCut.span, hoffset, hbytes]

/-- No character ends a line of the report in the line or in one before it. -/
lemma endsLine_eq_false (h : Plain text cut.span) {line : List Char}
    (hline : line ∈ cut.before ++ [cut.line]) : ∀ c ∈ line, endsLine c = false := by
  intro c hc
  have hmem : c ∈ Text.terminated cut.before ++ cut.line := by
    rcases List.mem_append.mp hline with hbefore | hlast
    · refine List.mem_append_left _ (List.mem_flatMap.mpr ⟨line, hbefore, ?_⟩)
      exact List.mem_append_left _ hc
    · exact List.mem_append_right _ (List.mem_singleton.mp hlast ▸ hc)
  have hlines : line ∈ Text.lines text := by
    rw [cut.lines_eq, List.append_cons]
    exact List.mem_append_left _ hline
  refine Bool.eq_false_iff.mpr fun hends => ?_
  obtain rfl := (h.of_mem hmem).2 hends
  exact Text.newline_notMem_of_mem_lines hlines hc

/-- The lines before are cut alike. -/
lemma reportLines_eq (h : Plain text cut.span) :
    reportLines text = cut.before.map (· ++ ['\n']) ++
      reportLines (cut.line ++ Text.preceded cut.after) := by
  have hbefore : (cut.before.flatMap fun line => reportLines (line ++ ['\n'])) =
      cut.before.map (· ++ ['\n']) := by
    rw [List.map_eq_flatMap]
    refine List.flatMap_congr fun line hline => ?_
    exact reportLines_append_newline_of_endsLine
      (h.endsLine_eq_false (List.mem_append_left _ hline))
  rw [← hbefore, ← reportLines_terminated_append, ← cut.text_eq]

/-- A line fits where the text is plain and goes on from where the line begins. -/
lemma fits (h : Plain text cut.span) (hstart : cut.span.start < text.length) : Fits cut := by
  have hline : ∀ c ∈ cut.line, endsLine c = false := h.endsLine_eq_false (by simp)
  have hlines := h.reportLines_eq
  have hlength := cut.length_eq
  rw [Fits, h.span_eq]
  rw [h.span_eq] at hstart
  cases hafter : cut.after with
  | nil =>
      have hrest : cut.line ++ Text.preceded cut.after = cut.line := by
        rw [hafter, Text.preceded, List.flatMap_nil, List.append_nil]
      have hne : cut.line ≠ [] := by
        intro hnil
        rw [hrest, hnil] at hlength
        exact absurd hstart (by simp [hlength])
      rw [hrest, reportLines_of_endsLine hline hne] at hlines
      exact ⟨cut.line, [], hlines, .inr rfl, Nat.le_refl _⟩
  | cons next after =>
      have hrest : cut.line ++ Text.preceded cut.after =
          cut.line ++ '\n' :: (next ++ Text.preceded after) := by
        rw [hafter, Text.preceded, List.flatMap_cons, List.cons_append, Text.preceded]
      rw [hrest, reportLines_append_newline, reportLines_append_newline_of_endsLine hline,
        List.singleton_append] at hlines
      refine ⟨cut.line ++ ['\n'], _, hlines, .inl ?_, ?_⟩
      · rw [List.length_append, List.length_singleton]
        exact Nat.lt_add_of_pos_right (Nat.succ_pos _)
      · rw [List.length_append, List.length_singleton]
        exact Nat.add_le_add_left (Nat.le_succ _) _

end Plain

/-! ## Main statement -/

/-- **A report points at the line of its diagnostic** exactly if the bytes of that line, taken for
characters, lie in a line of the report. In a plain source they do, and the label covers the line;
a diagnostic without a place is told in one line of text. -/
theorem expectedReport_marks_iff (source name : String) (diagnostic : Diagnostic) :
    (diagnostic.line.bind (Text.lineSpan? source.toList) = none →
      expectedReport source name diagnostic =
        "expected diagnostic for " ++ name ++ ": " ++ diagnostic.text ++ "\n") ∧
    ∀ number span, diagnostic.line = some number →
      Text.lineSpan? source.toList number = some span →
        ∃ cut : Text.LineCut source.toList, cut.number = number ∧ cut.span = span ∧
          ((∃ placement, Marks source name diagnostic cut placement) ↔ Fits cut) ∧
          (span.start < source.toList.length → Plain source.toList span →
            ∃ placement, Marks source name diagnostic cut placement ∧
              placement.label.start = 0 ∧ placement.label.stop = cut.line.length) := by
  constructor
  · intro hnone
    rw [expectedReport, hnone]
  · intro number span hline hspan
    obtain ⟨cut, rfl, rfl⟩ := (Text.lineSpan?_eq_some_iff _ _ _).mp hspan
    have hplace : diagnostic.line.bind (Text.lineSpan? source.toList) = some cut.span := by
      rw [hline, Option.bind_some, hspan]
    refine ⟨cut, rfl, rfl, ⟨?_, ?_⟩, ?_⟩
    · rintro ⟨placement, hmarks⟩
      exact hmarks.fits
    · intro hfits
      obtain ⟨placement, hmarks, -⟩ := hfits.marks name hplace
      exact ⟨placement, hmarks⟩
    · intro hstart hplain
      obtain ⟨placement, hmarks, hlabel⟩ := (hplain.fits hstart).marks name hplace
      refine ⟨placement, hmarks, ?_, ?_⟩
      · rw [hlabel, Line.label, hmarks.offset_eq, hplain.span_eq]
        exact Nat.sub_self _
      · rw [hlabel, Line.label, hmarks.offset_eq, hplain.span_eq]
        exact Nat.add_sub_cancel_left _ _

/-- In a source of two ASCII lines, the second is pointed at; a missing entry point is told in one
line. -/
theorem expectedReport_marks_twoLines :
    expectedReport "a\nb" "t" .missingMain =
        "expected diagnostic for t: Program has no 'void main()' function\n" ∧
      ∃ cut : Text.LineCut "a\nb".toList, cut.number = 2 ∧
        ∃ placement, Marks "a\nb" "t" (.atLine 2 .typeMismatch) cut placement ∧
          placement.label.start = 0 ∧ placement.label.stop = cut.line.length := by
  constructor
  · exact (expectedReport_marks_iff "a\nb" "t" .missingMain).1 rfl
  · obtain ⟨cut, hnumber, -, -, hplain⟩ :=
      (expectedReport_marks_iff "a\nb" "t" (.atLine 2 .typeMismatch)).2 2 ⟨2, 3⟩ rfl (by decide)
    exact ⟨cut, hnumber, hplain (by decide) (by decide)⟩

/-- A line after two characters of two bytes: its first byte, taken for a character, is in the next
line, and the report shows that line and its number. -/
theorem not_marks_afterTwoBytes :
    expectedReport "éé\na\nb" "t" (.atLine 2 .typeMismatch) =
        "\x1b[31mError:\x1b[0m expected diagnostic for t\n" ++
        "   \x1b[38;5;246m╭\x1b[0m\x1b[38;5;246m─\x1b[0m\x1b[38;5;246m[\x1b[0m" ++
          "<unknown>:3:1\x1b[38;5;246m]\x1b[0m\n" ++
        "   \x1b[38;5;246m│\x1b[0m\n" ++
        " \x1b[38;5;246m3 │\x1b[0m b\n" ++
        " \x1b[38;5;240m  │\x1b[0m ┬  \n" ++
        " \x1b[38;5;240m  │\x1b[0m ╰── type mismatch\n" ++
        "\x1b[38;5;246m───╯\x1b[0m\n" ∧
      Text.lineSpan? "éé\na\nb".toList 2 = some ⟨5, 6⟩ ∧
        ∀ (cut : Text.LineCut "éé\na\nb".toList) (placement : Placement), cut.number = 2 →
          ¬Marks "éé\na\nb" "t" (.atLine 2 .typeMismatch) cut placement := by
  have hspan : Text.lineSpan? "éé\na\nb".toList 2 = some ⟨5, 6⟩ := by decide
  have hplace : place? "éé\na\nb".toList ⟨5, 6⟩ = some ⟨⟨3, 5, ['b']⟩, ⟨0, 1, 0⟩⟩ := rfl
  refine ⟨by decide +kernel, hspan, ?_⟩
  intro cut placement hnumber h
  have hcut : cut.span = ⟨5, 6⟩ := by
    have hfound := (Text.lineSpan?_eq_some_iff _ _ _).mpr ⟨cut, hnumber, rfl⟩
    exact Option.some.inj (hfound.symm.trans hspan)
  have hplacement := h.place?_eq
  rw [hcut, hplace] at hplacement
  have hline := h.number_eq
  rw [← Option.some.inj hplacement, hnumber] at hline
  exact absurd hline (by decide)

end Conformance.Excerpt
