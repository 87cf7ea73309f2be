import Conformance.ValueType

/-!
# Diagnostics

What the analyser reports of a program that it rejects: one violation, and the line where it is
detected.

* **Violations** (`Violation`, `Violation.message`): the ten rules that a program can break, each
  with its message.
* **Shape** (`Diagnostic`): a diagnostic has a line, counted from one, unless it says that the
  program has no entry point, which belongs to no line.
* **Construction** (`Diagnostic.locate`, `Diagnostic.report`): `locate` puts any violation on a
  line; `report` also refuses to call a literal out of range that is not.
* **Text** (`Diagnostic.text`): `line N: ` and the message, or the message alone.
-/

namespace Conformance

/-- What a name stands for. -/
inductive NameKind where
  | var
  | function
  deriving DecidableEq

/-- The word for what a name stands for. -/
def NameKind.word : NameKind → String
  | var => "variable"
  | function => "function"

/-- A rule of the analysed language that a program breaks. -/
inductive Violation where
  /-- A variable is used that no scope in sight declares. -/
  | undefinedVariable (name : String)
  /-- A function is called that the program does not declare. -/
  | undefinedFunction (name : String)
  /-- A name is declared twice in a scope, or a local takes a parameter's name. -/
  | duplicateSymbol (name : String)
  /-- A value is used where its type does not fit. -/
  | typeMismatch
  /-- A literal lies outside the range of its type. -/
  | literalOutOfRange (type : ValueType) (value : Int)
  /-- A `break` stands outside any loop. -/
  | unexpectedBreak
  /-- A `continue` stands outside any loop. -/
  | unexpectedContinue
  /-- A call's arguments do not bind to the function's parameters. -/
  | prototypeMismatch (function : String) (params : List ValueType)
  /-- A name is used as the other kind of symbol; `actual` is what it is. -/
  | nameKindMismatch (name : String) (actual : NameKind)
  /-- The program has no entry point of the right shape. -/
  | missingMain
  deriving DecidableEq

/-- The message for a violation, without its line. -/
def Violation.message : Violation → String
  | undefinedVariable name => "variable " ++ name ++ " is not defined"
  | undefinedFunction name => "function " ++ name ++ " is not defined"
  | duplicateSymbol name => "symbol " ++ name ++ " is already defined"
  | typeMismatch => "type mismatch"
  | literalOutOfRange type value =>
    type.keyword ++ " value " ++ toString value ++ " out of range"
  | unexpectedBreak => "unexpected break statement"
  | unexpectedContinue => "unexpected continue statement"
  | prototypeMismatch function params =>
    "prototype mismatch, function " ++ function ++ " expects parameters (" ++
      ValueType.joinKeywords params ++ ")"
  | nameKindMismatch name actual => "symbol " ++ name ++ " is a " ++ actual.word
  | missingMain => "Program has no 'void main()' function"

/-- A violation with the line where it is detected. -/
structure Diagnostic where
  /-- The line, counted from one. -/
  line : Option Nat
  /-- The violation. -/
  violation : Violation
  /-- Just the missing entry point has no line. -/
  line_eq_none_iff : line = none ↔ violation = .missingMain
  /-- There is no line zero. -/
  line_ne_zero : line ≠ some 0
  deriving DecidableEq

namespace Diagnostic

/-! ## Construction -/

/-- Why a diagnostic cannot be. -/
inductive Rejection where
  /-- A missing entry point was given a line. -/
  | missingMainLocated
  /-- A violation was put on line zero. -/
  | lineZero (violation : Violation)
  /-- A literal was called out of range, and its type can hold it. -/
  | literalFits (type : ValueType) (value : Int)
  /-- A reason given in words. -/
  | described (text : String)
  deriving DecidableEq

/-- The text of a rejection. -/
def Rejection.message : Rejection → String
  | missingMainLocated => "'" ++ Violation.missingMain.message ++ "' cannot carry a line"
  | lineZero violation => "line 0 for '" ++ violation.message ++ "', lines are 1-based"
  | literalFits type value => toString value ++ " fits in " ++ type.keyword
  | described text => text

/-- The diagnostic of a program without an entry point. -/
def missingMain : Diagnostic where
  line := none
  violation := .missingMain
  line_eq_none_iff := by simp
  line_ne_zero := by simp

/-- The diagnostic of a violation that belongs to a line, at a line that exists. -/
def atLine (line : Nat) (violation : Violation) (line_ne_zero : line ≠ 0 := by decide)
    (located : violation ≠ .missingMain := by decide) : Diagnostic where
  line := some line
  violation := violation
  line_eq_none_iff := by simp [located]
  line_ne_zero := by simp [line_ne_zero]

/-- The diagnostic of a violation at a line. A missing entry point is refused, at line zero too. -/
def locate (line : Nat) (violation : Violation) : Except Rejection Diagnostic :=
  if isMain : violation = .missingMain then .error .missingMainLocated
  else if isZero : line = 0 then .error (.lineZero violation)
  else .ok (atLine line violation isZero isMain)

/-- The diagnostic of a violation detected at a line. A literal that its type can hold is refused,
at line zero too; a missing entry point goes without its line. -/
def report (line : Nat) : Violation → Except Rejection Diagnostic
  | .missingMain => .ok missingMain
  | .literalOutOfRange type value =>
    if type.canHold value then .error (.literalFits type value)
    else locate line (.literalOutOfRange type value)
  | violation => locate line violation

/-! ## Text -/

/-- The text of a diagnostic: its message, after its line if it has one. -/
def text (diagnostic : Diagnostic) : String :=
  match diagnostic.line with
  | some line => "line " ++ toString line ++ ": " ++ diagnostic.violation.message
  | none => diagnostic.violation.message

end Diagnostic

end Conformance
