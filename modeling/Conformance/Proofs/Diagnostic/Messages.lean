import Conformance.Diagnostic
import Conformance.Proofs.Outline.Reading
import Mathlib.Data.List.Basic

/-!
# Reading a message back

A reader for the messages of violations, and the proof that it returns the violation that a message
was made for. A message quotes none of its names, and a name may hold the words of other messages;
but no name reaches the end of a message.

* **Subject and closing words** (`Violation.toList_message`): a message is its subject, at the end
  of which the name stands if there is one, and then words that are no names, each behind a space.
* **The telling word** (`Violation.ofMessage?`): the second word from the end is a different one for
  every kind of violation, but for undefined variables and functions, whose subjects differ.
* **Names** (`nameAfter?`): a name is what is left of a subject without its opening, spaces and all.
* **Main statement** (`Violation.ofMessage?_message`): reading a message gives the violation back,
  whatever the names are.
-/

namespace Conformance

/-! ## Words and names -/

/-- Words behind spaces are found before those of the rest, the last one first. -/
lemma wordsFromEnd_append_flatMap (line : List Char) {words : List (List Char)}
    (h : ∀ word ∈ words, ' ' ∉ word) :
    wordsFromEnd (line ++ words.flatMap (' ' :: ·)) = words.reverse ++ wordsFromEnd line := by
  induction words generalizing line with
  | nil => simp
  | cons word words ih =>
      obtain ⟨hword, hwords⟩ := List.forall_mem_cons.mp h
      rw [List.flatMap_cons, ← List.append_assoc, ih _ hwords, wordsFromEnd_append hword,
        List.reverse_cons, List.append_assoc, List.singleton_append]

/-- The name in a subject that begins with an opening; the words of the subject are given, the last
one first. -/
def nameAfter? (opening : String) (subject : List (List Char)) : Option String :=
  ((ofWordsFromEnd subject).dropPrefix? opening.toList).map String.ofList

/-- A name is found behind its opening. -/
lemma nameAfter?_wordsFromEnd (opening name : String) :
    nameAfter? opening (wordsFromEnd (opening ++ name).toList) = some name := by
  rw [nameAfter?, ofWordsFromEnd_wordsFromEnd, String.toList_append,
    List.dropPrefix?_append_of_beq _ (beq_self_eq_true _),
    Option.map_some, String.ofList_toList]

/-- What a word says that a name stands for. -/
def NameKind.ofWord? : String → Option NameKind
  | "variable" => some var
  | "function" => some function
  | _ => none

/-- Reading the word for what a name stands for. -/
lemma NameKind.ofWord?_word (kind : NameKind) : ofWord? kind.word = some kind := by
  cases kind <;> rfl

namespace Violation

/-! ## Subject and closing words -/

/-- What a message says first: an opening, and a name if it is about one. -/
def subject : Violation → String
  | undefinedVariable name => "variable " ++ name
  | undefinedFunction name => "function " ++ name
  | duplicateSymbol name => "symbol " ++ name
  | typeMismatch => "type"
  | literalOutOfRange type _ => type.keyword
  | unexpectedBreak => "unexpected"
  | unexpectedContinue => "unexpected"
  | prototypeMismatch function _ => "prototype mismatch, function " ++ function
  | nameKindMismatch name _ => "symbol " ++ name
  | missingMain => "Program"

/-- The words that close a message; none of them is a name. -/
def closing : Violation → List String
  | undefinedVariable _ => ["is", "not", "defined"]
  | undefinedFunction _ => ["is", "not", "defined"]
  | duplicateSymbol _ => ["is", "already", "defined"]
  | typeMismatch => ["mismatch"]
  | literalOutOfRange _ value => ["value", value.repr, "out", "of", "range"]
  | unexpectedBreak => ["break", "statement"]
  | unexpectedContinue => ["continue", "statement"]
  | prototypeMismatch _ params =>
    ["expects", "parameters", "(" ++ ValueType.joinKeywords params ++ ")"]
  | nameKindMismatch _ actual => ["is", "a", actual.word]
  | missingMain => ["has", "no", "'void", "main()'", "function"]

/-- A message is its subject and then its closing words, each behind a space. -/
lemma toList_message (violation : Violation) :
    violation.message.toList =
      violation.subject.toList ++ (violation.closing.map String.toList).flatMap (' ' :: ·) := by
  have hsplit : ∃ rest, violation.message = violation.subject ++ rest ∧
      rest.toList = (violation.closing.map String.toList).flatMap (' ' :: ·) := by
    cases violation with
    | undefinedVariable name => exact ⟨" is not defined", rfl, rfl⟩
    | undefinedFunction name => exact ⟨" is not defined", rfl, rfl⟩
    | duplicateSymbol name => exact ⟨" is already defined", rfl, rfl⟩
    | typeMismatch => exact ⟨" mismatch", rfl, rfl⟩
    | literalOutOfRange type value =>
        have hassoc : type.keyword ++ " value " ++ value.repr ++ " out of range" =
            type.keyword ++ (" value " ++ value.repr ++ " out of range") := by
          simp only [String.append_assoc]
        exact ⟨_, hassoc, by simp [closing]⟩
    | unexpectedBreak => exact ⟨" break statement", rfl, rfl⟩
    | unexpectedContinue => exact ⟨" continue statement", rfl, rfl⟩
    | prototypeMismatch function params =>
        have hassoc : "prototype mismatch, function " ++ function ++ " expects parameters (" ++
            ValueType.joinKeywords params ++ ")" = "prototype mismatch, function " ++ function ++
              (" expects parameters (" ++ ValueType.joinKeywords params ++ ")") := by
          simp only [String.append_assoc]
        exact ⟨_, hassoc, by simp [closing]⟩
    | nameKindMismatch name actual =>
        exact ⟨" is a " ++ actual.word, String.append_assoc .., by simp [closing]⟩
    | missingMain => exact ⟨" has no 'void main()' function", rfl, rfl⟩
  obtain ⟨rest, hmessage, hrest⟩ := hsplit
  rw [hmessage, String.toList_append, hrest]

/-- No closing word holds a space or a newline. -/
lemma blank_notMem_closing (violation : Violation) {blank : Char}
    (hblank : blank = ' ' ∨ blank = '\n') :
    ∀ word ∈ violation.closing.map String.toList, blank ∉ word := by
  cases violation with
  | literalOutOfRange type value =>
      have hvalue : blank ∉ value.repr.toList := by
        intro hmem
        have hdigit := eq_dash_or_isDigit_of_mem_repr hmem
        rcases hblank with rfl | rfl <;> exact absurd hdigit (by decide)
      rcases hblank with rfl | rfl <;> simp [closing, hvalue]
  | prototypeMismatch function params =>
      have hparams : blank ∉ (ValueType.joinKeywords params).toList := by
        intro hmem
        have hlower := ValueType.isLower_or_eq_comma_of_mem_joinKeywords _ _ hmem
        rcases hblank with rfl | rfl <;> exact absurd hlower (by decide)
      rcases hblank with rfl | rfl <;> simp [closing, hparams]
  | nameKindMismatch name actual =>
      rcases hblank with rfl | rfl <;> cases actual <;> simp [closing, NameKind.word]
  | _ => rcases hblank with rfl | rfl <;> simp [closing]

/-- The last words of a message are its closing words; the others are those of its subject. -/
lemma wordsFromEnd_message (violation : Violation) :
    wordsFromEnd violation.message.toList =
      (violation.closing.map String.toList).reverse ++ wordsFromEnd violation.subject.toList := by
  rw [toList_message, wordsFromEnd_append_flatMap _ (violation.blank_notMem_closing (.inl rfl))]

/-! ## Messages -/

/-- The violation that a message is for. -/
def ofMessage? (message : List Char) : Option Violation :=
  match wordsFromEnd message with
  | last :: telling :: before =>
    match String.ofList telling with
    | "not" =>
      ((nameAfter? "variable " before.tail).map undefinedVariable).or
        ((nameAfter? "function " before.tail).map undefinedFunction)
    | "already" => (nameAfter? "symbol " before.tail).map duplicateSymbol
    | "type" => some typeMismatch
    | "of" =>
      match before.map String.ofList with
      | [_out, value, _value, type] => do
        return literalOutOfRange (← ValueType.ofKeyword? type) (← value.toInt?)
      | _ => none
    | "break" => some unexpectedBreak
    | "continue" => some unexpectedContinue
    | "parameters" => do
      let params ← ValueType.splitKeywords? last.tail.dropLast
      let function ← nameAfter? "prototype mismatch, function " before.tail
      return prototypeMismatch function params
    | "a" => do
      let actual ← NameKind.ofWord? (String.ofList last)
      let name ← nameAfter? "symbol " before.tail
      return nameKindMismatch name actual
    | "main()'" => some missingMain
    | _ => none
  | _ => none

/-- **Reading a message** gives the violation back, whatever the names in it are. -/
lemma ofMessage?_message (violation : Violation) :
    ofMessage? violation.message.toList = some violation := by
  unfold ofMessage?
  rw [wordsFromEnd_message]
  cases violation with
  | undefinedVariable name =>
      have hname : nameAfter? "variable " (wordsFromEnd (undefinedVariable name).subject.toList) =
          some name := nameAfter?_wordsFromEnd "variable " name
      simp [closing, hname]
  | undefinedFunction name =>
      have hvariable : nameAfter? "variable "
          (wordsFromEnd (undefinedFunction name).subject.toList) = none := by
        have hsubject : (undefinedFunction name).subject.toList =
            "function ".toList ++ name.toList := String.toList_append ..
        rw [nameAfter?, ofWordsFromEnd_wordsFromEnd, hsubject]
        rfl
      have hname : nameAfter? "function " (wordsFromEnd (undefinedFunction name).subject.toList) =
          some name := nameAfter?_wordsFromEnd "function " name
      simp [closing, hvariable, hname]
  | duplicateSymbol name =>
      have hname : nameAfter? "symbol " (wordsFromEnd (duplicateSymbol name).subject.toList) =
          some name := nameAfter?_wordsFromEnd "symbol " name
      simp [closing, hname]
  | typeMismatch => decide
  | literalOutOfRange type value =>
      have hkeyword : ' ' ∉ type.keyword.toList := fun hmem =>
        absurd (ValueType.isLower_of_mem_keyword _ _ hmem) (by decide)
      have hsubject : wordsFromEnd (literalOutOfRange type value).subject.toList =
          [type.keyword.toList] := by
        unfold wordsFromEnd subject
        rw [List.splitOn_eq_singleton hkeyword]
        rfl
      simp [closing, hsubject]
  | unexpectedBreak => decide
  | unexpectedContinue => decide
  | prototypeMismatch function params =>
      have hname : nameAfter? "prototype mismatch, function "
          (wordsFromEnd (prototypeMismatch function params).subject.toList) = some function :=
        nameAfter?_wordsFromEnd "prototype mismatch, function " function
      simp [closing, hname, ValueType.splitKeywords?_joinKeywords]
  | nameKindMismatch name actual =>
      have hname : nameAfter? "symbol "
          (wordsFromEnd (nameKindMismatch name actual).subject.toList) = some name :=
        nameAfter?_wordsFromEnd "symbol " name
      simp [closing, hname, NameKind.ofWord?_word]
  | missingMain => decide

end Violation

end Conformance
