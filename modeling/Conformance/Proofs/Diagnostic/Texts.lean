import Conformance.Proofs.Diagnostic.Construction
import Conformance.Proofs.Diagnostic.Messages
import Mathlib.Tactic.Lemma

/-!
# What the text of a diagnostic tells

The text of a diagnostic is its message, behind its line if it has one. The text loses nothing: the
line ends at the first character that is no digit, and a message can be read back whatever its names
hold.

* **Numerals** (`IsNumeral`, `isNumeral_repr`): the numeral of a line has digits only, and no zero
  before them.
* **Newlines** (`Violation.newline_notMem_message`): only a name can bring a newline into a message.
* **Texts** (`ofText?`, `ofText?_text`): the diagnostic can be read off its text.
* **Main statement** (`encodes_of_obtained`): of every diagnostic that can be obtained, the line,
  the form of the text, and that no other diagnostic has the text.
-/

namespace Conformance

/-! ## Numerals -/

/-- A text is a number in decimal digits, the first of which is not a zero. -/
structure IsNumeral (text : List Char) (number : Nat) : Prop where
  /-- There are digits only, so no sign. -/
  isDigit : ∀ digit ∈ text, digit.isDigit = true
  /-- No zero stands before the number. -/
  head?_ne : text.head? ≠ some '0'
  /-- The digits have the number as their value. -/
  ofDigitChars_eq : Nat.ofDigitChars 10 text 0 = number

/-- The digits of a positive number do not begin with a zero. -/
lemma head?_toDigits_ne {number : Nat} (h : number ≠ 0) :
    (Nat.toDigits 10 number).head? ≠ some '0' := by
  induction number using Nat.strongRecOn with
  | ind number ih =>
      by_cases hsmall : number < 10
      · rw [Nat.toDigits_of_lt_base hsmall, List.head?_cons]
        intro hzero
        have hvalue := congrArg Char.toNat (Option.some.inj hzero)
        rw [Nat.toNat_digitChar_of_lt_ten hsmall] at hvalue
        exact h (Nat.add_left_cancel hvalue)
      · have hlarge : 10 ≤ number := Nat.le_of_not_lt hsmall
        rw [Nat.toDigits_of_base_le (by decide) hlarge,
          List.head?_append_of_ne_nil _ Nat.toDigits_ne_nil]
        exact ih (number / 10) (by omega) (by omega)

/-- A positive number is written as its numeral. -/
lemma isNumeral_repr {number : Nat} (h : number ≠ 0) : IsNumeral number.repr.toList number where
  isDigit _ hdigit := isDigit_of_mem_repr hdigit
  head?_ne := by
    rw [Nat.toList_repr]
    exact head?_toDigits_ne h
  ofDigitChars_eq := by
    rw [Nat.toList_repr, Nat.ofDigitChars_ten_toDigits]

/-! ## Newlines -/

namespace Violation

/-- The names in a violation, as the program writes them. -/
def names : Violation → List String
  | undefinedVariable name => [name]
  | undefinedFunction name => [name]
  | duplicateSymbol name => [name]
  | prototypeMismatch function _ => [function]
  | nameKindMismatch name _ => [name]
  | _ => []

/-- A subject has no newline if its name has none. -/
lemma newline_notMem_subject {violation : Violation}
    (h : ∀ name ∈ violation.names, '\n' ∉ name.toList) : '\n' ∉ violation.subject.toList := by
  have hopened (opening name : String) (hopening : '\n' ∉ opening.toList)
      (hname : '\n' ∉ name.toList) : '\n' ∉ (opening ++ name).toList := by
    rw [String.toList_append, List.mem_append, not_or]
    exact ⟨hopening, hname⟩
  cases violation with
  | undefinedVariable name => exact hopened _ _ (by decide) (h name (.head _))
  | undefinedFunction name => exact hopened _ _ (by decide) (h name (.head _))
  | duplicateSymbol name => exact hopened _ _ (by decide) (h name (.head _))
  | prototypeMismatch function params => exact hopened _ _ (by decide) (h function (.head _))
  | nameKindMismatch name actual => exact hopened _ _ (by decide) (h name (.head _))
  | literalOutOfRange type value =>
      have hkeyword : '\n' ∉ type.keyword.toList := by cases type <;> decide
      exact hkeyword
  | typeMismatch => decide
  | unexpectedBreak => decide
  | unexpectedContinue => decide
  | missingMain => decide

/-- **Newlines** in a message come from its names. -/
lemma newline_notMem_message {violation : Violation}
    (h : ∀ name ∈ violation.names, '\n' ∉ name.toList) : '\n' ∉ violation.message.toList := by
  rw [toList_message, List.mem_append, List.mem_flatMap]
  rintro (hsubject | ⟨word, hword, hnewline⟩)
  · exact newline_notMem_subject h hsubject
  · rcases List.mem_cons.mp hnewline with hblank | hmem
    · cases hblank
    · exact violation.blank_notMem_closing (.inr rfl) word hword hmem

end Violation

/-! ## Texts -/

namespace Diagnostic

/-- The text of a diagnostic without a line is its message. -/
lemma text_of_line_eq_none {diagnostic : Diagnostic} (h : diagnostic.line = none) :
    diagnostic.text = diagnostic.violation.message := by
  rw [text, h]

/-- The text of a diagnostic on a line is its message behind the line. -/
lemma text_of_line {diagnostic : Diagnostic} {line : Nat} (h : diagnostic.line = some line) :
    diagnostic.text = "line " ++ line.repr ++ ": " ++ diagnostic.violation.message := by
  rw [text, h]
  rfl

/-- The characters of the text of a diagnostic on a line. -/
lemma toList_text_of_line {diagnostic : Diagnostic} {line : Nat} (h : diagnostic.line = some line) :
    diagnostic.text.toList = "line ".toList ++
      (line.repr.toList ++ (": ".toList ++ diagnostic.violation.message.toList)) := by
  rw [text_of_line h, String.toList_append, String.toList_append, String.toList_append,
    List.append_assoc, List.append_assoc]

/-- A text has no newline if the names in it have none. -/
lemma newline_notMem_text {diagnostic : Diagnostic}
    (h : ∀ name ∈ diagnostic.violation.names, '\n' ∉ name.toList) :
    '\n' ∉ diagnostic.text.toList := by
  have hmessage := Violation.newline_notMem_message h
  cases hline : diagnostic.line with
  | none => rwa [text_of_line_eq_none hline]
  | some line =>
      have hnumeral : '\n' ∉ line.repr.toList := by
        intro hmem
        exact absurd (isDigit_of_mem_repr hmem) (by decide)
      have hopening : '\n' ∉ "line ".toList := by decide
      have hcolon : '\n' ∉ ": ".toList := by decide
      rw [toList_text_of_line hline, List.mem_append, List.mem_append, List.mem_append]
      exact not_or.mpr ⟨hopening, not_or.mpr ⟨hnumeral, not_or.mpr ⟨hcolon, hmessage⟩⟩⟩

/-- The diagnostic that a text is for. -/
def ofText? (text : List Char) : Option Diagnostic :=
  match text.dropPrefix? "line ".toList with
  | some rest => do
    let violation ← Violation.ofMessage? ((rest.dropWhile Char.isDigit).drop 2)
    ofParts? (some (Nat.ofDigitChars 10 (rest.takeWhile Char.isDigit) 0)) violation
  | none => do
    let violation ← Violation.ofMessage? text
    ofParts? none violation

/-- **Reading a text** gives the diagnostic back. -/
lemma ofText?_text (diagnostic : Diagnostic) :
    ofText? diagnostic.text.toList = some diagnostic := by
  cases hline : diagnostic.line with
  | none =>
      have hmain : diagnostic.violation = .missingMain := diagnostic.line_eq_none_iff.mp hline
      have htext := text_of_line_eq_none hline
      have hnone : diagnostic.text.toList.dropPrefix? "line ".toList = none := by
        rw [htext, hmain]
        decide
      unfold ofText?
      rw [hnone, htext, Violation.ofMessage?_message, ← hline]
      exact ofParts?_parts diagnostic
  | some line =>
      have hdigits : ∀ digit ∈ line.repr.toList, digit.isDigit = true :=
        fun _ => isDigit_of_mem_repr
      -- The colon ends the digits, so the line cannot run into the message.
      have hcolon (message : List Char) :
          (": ".toList ++ message).takeWhile Char.isDigit = [] := rfl
      have hrest (message : List Char) :
          (": ".toList ++ message).dropWhile Char.isDigit = ": ".toList ++ message := rfl
      unfold ofText?
      rw [toList_text_of_line hline, List.dropPrefix?_append_of_beq _ (beq_self_eq_true _)]
      dsimp only
      rw [List.dropWhile_append_of_pos hdigits, List.takeWhile_append_of_pos hdigits, hcolon, hrest,
        List.append_nil, Nat.toList_repr, Nat.ofDigitChars_ten_toDigits, ← hline]
      have hmessage : (": ".toList ++ diagnostic.violation.message.toList).drop 2 =
          diagnostic.violation.message.toList := rfl
      rw [hmessage, Violation.ofMessage?_message]
      exact ofParts?_parts diagnostic

/-- No two diagnostics have one text. -/
lemma text_injective : Function.Injective text := by
  intro diagnostic other htext
  have hread := congrArg (ofText? ·.toList) htext
  rwa [ofText?_text, ofText?_text, Option.some.injEq] at hread

/-! ## Diagnostics that can be obtained -/

/-- What the diagnostic for a violation at a line tells of them. -/
structure Encodes (line : Nat) (violation : Violation) (diagnostic : Diagnostic) : Prop where
  /-- It is about the violation. -/
  violation_eq : diagnostic.violation = violation
  /-- Just the missing entry point has no line. -/
  line_eq_none_iff : diagnostic.line = none ↔ violation = .missingMain
  /-- Every other violation has the line, and it is not line zero. -/
  line_eq : violation ≠ .missingMain → diagnostic.line = some line ∧ 1 ≤ line
  /-- The text of a missing entry point is its message. -/
  text_missingMain : violation = .missingMain →
    diagnostic.text = "Program has no 'void main()' function"
  /-- The text of every other violation is its message behind the numeral of the line. -/
  text_located : violation ≠ .missingMain → ∃ numeral : String, IsNumeral numeral.toList line ∧
    diagnostic.text = "line " ++ numeral ++ ": " ++ violation.message
  /-- It is a single line of text if the names are. -/
  newline_notMem : (∀ name ∈ violation.names, '\n' ∉ name.toList) → '\n' ∉ diagnostic.text.toList
  /-- No other diagnostic has the text. -/
  text_inj : ∀ otherLine otherViolation other, Obtained otherLine otherViolation other →
    other.text = diagnostic.text → otherViolation = violation ∧ other = diagnostic

/-- **A diagnostic tells its line and its violation**, in whichever way it was obtained and whatever
its names hold: no two diagnostics have one text. -/
theorem encodes_of_obtained {line : Nat} {violation : Violation} {diagnostic : Diagnostic}
    (h : Obtained line violation diagnostic) : Encodes line violation diagnostic := by
  have hviolation := h.violation_eq
  constructor
  · exact hviolation
  · rw [diagnostic.line_eq_none_iff, hviolation]
  · intro hlocated
    obtain ⟨hline, hzero⟩ := h.line_eq hlocated
    exact ⟨hline, Nat.pos_of_ne_zero hzero⟩
  · intro hmain
    have hline : diagnostic.line = none := diagnostic.line_eq_none_iff.mpr (hviolation.trans hmain)
    rw [text_of_line_eq_none hline, hviolation, hmain]
    rfl
  · intro hlocated
    obtain ⟨hline, hzero⟩ := h.line_eq hlocated
    exact ⟨line.repr, isNumeral_repr hzero, by rw [text_of_line hline, hviolation]⟩
  · intro hnames
    exact newline_notMem_text (hviolation ▸ hnames)
  · intro otherLine otherViolation other hother htext
    have hsame : other = diagnostic := text_injective htext
    exact ⟨by rw [← hother.violation_eq, ← hviolation, hsame], hsame⟩

/-- A name may end like another message, hold a newline and open a line of its own. -/
theorem encodes_of_obtained_lookalike :
    let violation : Violation :=
      .prototypeMismatch "f expects parameters (int)\nline 1: symbol g" [.int, .byte]
    let diagnostic : Diagnostic := atLine 4294967295 violation (by decide) nofun
    Obtained 4294967295 violation diagnostic ∧ Encodes 4294967295 violation diagnostic :=
  ⟨.located rfl, encodes_of_obtained (.located rfl)⟩

end Diagnostic

end Conformance
