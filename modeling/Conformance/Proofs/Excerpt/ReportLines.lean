import Conformance.Excerpt
import Conformance.Proofs.Text.LineCuts

/-!
# The lines of a report

A report has its own way to take a text apart into lines. It is compared here with the lines between
newlines.

* **One character** (`reportLines_cons`): a character is a line of its own or stands at the head of
  the first line after it, which is told from the next character alone.
* **All characters** (`flatten_reportLines`, `ne_nil_of_mem_reportLines`): the lines put together
  are the text, and none is empty. So they are known from where they begin
  (`eq_of_isPrefix_of_isPrefix`).
* **A newline ends a line** (`reportLines_append_newline`): the lines up to a newline do not depend
  on what follows it.
* **Look-up** (`locate_eq_some_iff`): which line holds a position.
-/

namespace Conformance.Excerpt

/-! ## One character -/

/-- Whether a line of the report ends after a character, given the text that follows it. -/
def endsLineBefore (c : Char) (rest : List Char) : Bool :=
  endsLine c && !(c == '\r' && rest.head? == some '\n')

/-- Lines with a character put before the first. -/
def prependTo (c : Char) : List (List Char) → List (List Char)
  | [] => [[c]]
  | first :: others => (c :: first) :: others

/-- **One character** is a line of its own or belongs to the first line after it. -/
lemma reportLines_cons (c : Char) (rest : List Char) :
    reportLines (c :: rest) =
      if endsLineBefore c rest then [c] :: reportLines rest
      else prependTo c (reportLines rest) := by
  by_cases hpair : c = '\r' ∧ rest.head? = some '\n'
  · obtain ⟨rfl, hhead⟩ := hpair
    obtain ⟨rest, rfl⟩ := List.head?_eq_some_iff.mp hhead
    have hnewline : reportLines ('\n' :: rest) = ['\n'] :: reportLines rest := by
      rw [reportLines.eq_3 _ _ (by simp)]
      rfl
    rw [reportLines, hnewline]
    rfl
  · have hends : endsLineBefore c rest = endsLine c := by
      rw [endsLineBefore, Bool.and_eq_left_iff_imp]
      intro
      rw [Bool.not_eq_true', Bool.and_eq_false_imp]
      intro hc
      rw [beq_eq_false_iff_ne]
      exact fun hhead => hpair ⟨eq_of_beq hc, hhead⟩
    rw [reportLines.eq_3 _ _ (by rintro rest' rfl rfl; exact hpair ⟨rfl, rfl⟩), hends]
    cases reportLines rest <;> rfl

/-! ## All characters -/

/-- A character put before lines comes before what they are put together. -/
lemma flatten_prependTo (c : Char) (lines : List (List Char)) :
    (prependTo c lines).flatten = c :: lines.flatten := by
  cases lines <;> rfl

/-- The lines put together are the text. -/
@[simp] lemma flatten_reportLines (text : List Char) : (reportLines text).flatten = text := by
  induction text with
  | nil => rfl
  | cons c rest ih =>
      rw [reportLines_cons]
      split
      · rw [List.flatten_cons, ih, List.singleton_append]
      · rw [flatten_prependTo, ih]

/-- Lines stay without an empty one when a character is put before them. -/
lemma ne_nil_of_mem_prependTo {c : Char} {lines : List (List Char)}
    (h : ∀ line ∈ lines, line ≠ []) : ∀ line ∈ prependTo c lines, line ≠ [] := by
  cases lines with
  | nil =>
      intro line hline
      rw [prependTo, List.mem_singleton] at hline
      exact hline ▸ List.cons_ne_nil _ _
  | cons first others =>
      exact List.forall_mem_cons.mpr ⟨List.cons_ne_nil _ _, (List.forall_mem_cons.mp h).2⟩

/-- No line is empty. -/
lemma ne_nil_of_mem_reportLines (text : List Char) : ∀ line ∈ reportLines text, line ≠ [] := by
  induction text with
  | nil => exact nofun
  | cons c rest ih =>
      rw [reportLines_cons]
      split
      · exact List.forall_mem_cons.mpr ⟨List.cons_ne_nil _ _, ih⟩
      · exact ne_nil_of_mem_prependTo ih

/-- A text that is not empty has lines. -/
lemma reportLines_ne_nil {text : List Char} (h : text ≠ []) : reportLines text ≠ [] := by
  intro hlines
  have := flatten_reportLines text
  rw [hlines] at this
  exact h this.symm

/-- Lines that are not empty, of which one list begins another, are as many as the characters
tell. -/
lemma eq_of_isPrefix_of_length_flatten {first second : List (List Char)}
    (hbegins : first <+: second) (hlines : ∀ line ∈ second, line ≠ [])
    (hlength : first.flatten.length = second.flatten.length) : first = second := by
  obtain ⟨rest, rfl⟩ := hbegins
  rw [List.flatten_append, List.length_append] at hlength
  have hrest : rest.flatten = [] := List.length_eq_zero_iff.mp (by omega)
  cases rest with
  | nil => rw [List.append_nil]
  | cons line rest =>
      have hline : line = [] := List.flatten_eq_nil_iff.mp hrest line List.mem_cons_self
      exact absurd hline (hlines line (by simp))

/-- Two beginnings of lines that are not empty are the same if they end at one position. -/
lemma eq_of_isPrefix_of_isPrefix {first second lines : List (List Char)}
    (hfirst : first <+: lines) (hsecond : second <+: lines) (hlines : ∀ line ∈ lines, line ≠ [])
    (hlength : first.flatten.length = second.flatten.length) : first = second := by
  rcases List.prefix_or_prefix_of_prefix hfirst hsecond with h | h
  · exact eq_of_isPrefix_of_length_flatten h (fun line hline => hlines line (hsecond.subset hline))
      hlength
  · exact (eq_of_isPrefix_of_length_flatten h (fun line hline => hlines line (hfirst.subset hline))
      hlength.symm).symm

/-! ## Newlines -/

/-- Lines that follow others do not matter to a character that is put before those. -/
lemma prependTo_append {lines : List (List Char)} (h : lines ≠ []) (c : Char)
    (others : List (List Char)) : prependTo c (lines ++ others) = prependTo c lines ++ others := by
  cases lines with
  | nil => exact absurd rfl h
  | cons first rest => rfl

/-- **A newline ends a line**: the lines up to it do not depend on what follows. -/
lemma reportLines_append_newline (text rest : List Char) :
    reportLines (text ++ '\n' :: rest) = reportLines (text ++ ['\n']) ++ reportLines rest := by
  induction text with
  | nil =>
      rw [List.nil_append, List.nil_append, reportLines_cons, reportLines_cons]
      rfl
  | cons c text ih =>
      have hhead : endsLineBefore c (text ++ '\n' :: rest) = endsLineBefore c (text ++ ['\n']) := by
        cases text <;> rfl
      rw [List.cons_append, List.cons_append, reportLines_cons, reportLines_cons, hhead, ih]
      split
      · rfl
      · exact prependTo_append (reportLines_ne_nil (by simp)) c _

/-- Each line between newlines falls into lines of the report. -/
lemma reportLines_terminated_append (lines : List (List Char)) (rest : List Char) :
    reportLines (Text.terminated lines ++ rest) =
      (lines.flatMap fun line => reportLines (line ++ ['\n'])) ++ reportLines rest := by
  induction lines with
  | nil => rfl
  | cons line lines ih =>
      rw [Text.terminated_cons, List.append_assoc, List.cons_append, reportLines_append_newline, ih,
        List.flatMap_cons, List.append_assoc]

/-- Characters that end no line stand at the head of the first line after them. -/
lemma reportLines_append_of_endsLine {text : List Char} (h : ∀ c ∈ text, endsLine c = false)
    {rest first : List Char} {others : List (List Char)}
    (hrest : reportLines rest = first :: others) :
    reportLines (text ++ rest) = (text ++ first) :: others := by
  induction text with
  | nil => exact hrest
  | cons c text ih =>
      obtain ⟨hc, htext⟩ := List.forall_mem_cons.mp h
      have hends : endsLineBefore c (text ++ rest) = false := by
        rw [endsLineBefore, hc, Bool.false_and]
      rw [List.cons_append, reportLines_cons, hends, ih htext]
      rfl

/-- A text with no other end of a line is one line with the newline after it. -/
lemma reportLines_append_newline_of_endsLine {text : List Char}
    (h : ∀ c ∈ text, endsLine c = false) : reportLines (text ++ ['\n']) = [text ++ ['\n']] :=
  reportLines_append_of_endsLine h rfl

/-- A text with no end of a line is one line. -/
lemma reportLines_of_endsLine {text : List Char} (h : ∀ c ∈ text, endsLine c = false)
    (hne : text ≠ []) : reportLines text = [text] := by
  have hinit : ∀ c ∈ text.dropLast, endsLine c = false :=
    fun c hc => h c (List.dropLast_subset text hc)
  have hlast : reportLines [text.getLast hne] = [[text.getLast hne]] := by
    rw [reportLines_cons]
    split <;> rfl
  have := reportLines_append_of_endsLine hinit hlast
  rwa [List.dropLast_append_getLast] at this

/-! ## Look-up -/

/-- A line holds the positions from its first character up to the next line; the last line holds
all that follow. -/
lemma lineAt?_eq_some_iff {position number offset : Nat} (h : offset ≤ position)
    (lines : List (List Char)) (line : Line) :
    lineAt? position number offset lines = some line ↔
      ∃ before after, lines = before ++ line.chars :: after ∧
        line.number = number + before.length ∧ line.offset = offset + before.flatten.length ∧
        line.offset ≤ position ∧ (after = [] ∨ position < line.offset + line.chars.length) := by
  fun_induction lineAt? position number offset lines with
  | case1 => simp
  | case2 number offset chars =>
      constructor
      · intro hline
        cases hline
        exact ⟨[], [], rfl, rfl, rfl, h, .inl rfl⟩
      · rintro ⟨before, after, hlines, hnumber, hoffset, -, -⟩
        obtain ⟨rfl, rfl, rfl⟩ : before = [] ∧ after = [] ∧ line.chars = chars := by
          cases before with
          | nil => cases after <;> cases hlines; exact ⟨rfl, rfl, rfl⟩
          | cons first before => simp at hlines
        obtain ⟨lineNumber, lineOffset, lineChars⟩ := line
        cases hnumber
        cases hoffset
        rfl
  | case3 number offset chars next others hposition =>
      constructor
      · intro hline
        cases hline
        exact ⟨[], next :: others, rfl, rfl, rfl, h, .inr hposition⟩
      · rintro ⟨before, after, hlines, hnumber, hoffset, hstart, -⟩
        cases before with
        | nil =>
            obtain ⟨lineNumber, lineOffset, lineChars⟩ := line
            cases hlines
            cases hnumber
            cases hoffset
            rfl
        | cons first before =>
            obtain ⟨rfl, -⟩ := List.cons.inj hlines
            rw [List.flatten_cons, List.length_append] at hoffset
            omega
  | case4 number offset chars next others hposition ih =>
      rw [ih (by omega)]
      constructor
      · rintro ⟨before, after, hlines, hnumber, hoffset, hstart, hstop⟩
        refine ⟨chars :: before, after, by rw [hlines, List.cons_append], ?_, ?_, hstart, hstop⟩
        · rw [hnumber, List.length_cons, Nat.add_right_comm, Nat.add_assoc]
        · rw [hoffset, List.flatten_cons, List.length_append, Nat.add_assoc]
      · rintro ⟨before, after, hlines, hnumber, hoffset, hstart, hstop⟩
        cases before with
        | nil =>
            cases hlines
            simp only [List.flatten_nil, List.length_nil, Nat.add_zero] at hoffset
            rcases hstop with hafter | hstop
            · cases hafter
            · omega
        | cons first before =>
            obtain ⟨rfl, hothers⟩ := List.cons.inj hlines
            refine ⟨before, after, hothers, ?_, ?_, hstart, hstop⟩
            · rw [hnumber, List.length_cons, Nat.add_right_comm, Nat.add_assoc]
            · rw [hoffset, List.flatten_cons, List.length_append, Nat.add_assoc]

/-- **The line that holds a position** of a text. -/
lemma locate_eq_some_iff (text : List Char) (position : Nat) (line : Line) :
    locate text position = some line ↔
      position ≤ text.length ∧
      ∃ before after, reportLines text = before ++ line.chars :: after ∧
        line.number = before.length + 1 ∧ line.offset = before.flatten.length ∧
        line.offset ≤ position ∧ (after = [] ∨ position < line.offset + line.chars.length) := by
  rw [locate]
  split
  case isTrue hbeyond => simp [Nat.not_le.mpr hbeyond]
  case isFalse hwithin =>
      rw [lineAt?_eq_some_iff (Nat.zero_le _), and_iff_right (Nat.le_of_not_lt hwithin)]
      simp only [Nat.zero_add, Nat.add_comm 1]

/-- Every position of a text that is not empty is held by a line, the position after it as well. -/
lemma isSome_locate {text : List Char} {position : Nat} (hne : text ≠ [])
    (h : position ≤ text.length) : (locate text position).isSome := by
  have found : ∀ (lines : List (List Char)) (number offset : Nat), lines ≠ [] →
      (lineAt? position number offset lines).isSome := by
    intro lines number offset hlines
    fun_induction lineAt? position number offset lines with
    | case1 => exact absurd rfl hlines
    | case2 => rfl
    | case3 => rfl
    | case4 number offset chars next others hposition ih => exact ih (List.cons_ne_nil _ _)
  rw [locate, if_neg (Nat.not_lt.mpr h)]
  exact found _ _ _ (reportLines_ne_nil hne)

end Conformance.Excerpt
