import Conformance.Text.Digits

/-!
# Faults in JSON text

Why a value has no JSON text, or a text no JSON value.

* **Fault** (`Json.Fault`): a reason, with a line and a column where it belongs to a place in a
  text. Line zero stands for no place.
* **From words** (`Json.Fault.ofText`): words that end in a place, such as
  `reason at line 3 column 7`, are taken apart; other words are a reason without a place.
* **Message** (`Json.Fault.message`): the reason, and the place if there is one.
-/

namespace Conformance.Json

/-- A reason with the place where it was met. -/
structure Fault where
  /-- The reason. -/
  reason : String
  /-- The line, or zero. -/
  line : Nat := 0
  /-- The column. -/
  column : Nat := 0
  deriving DecidableEq

namespace Fault

/-- The words before a line number. -/
def lineMark : List Char := " at line ".toList

/-- The words before a column number. -/
def columnMark : List Char := " column ".toList

/-- What stands before and after the last occurrence of some words in a text. -/
def splitLast? (mark : List Char) : List Char → Option (List Char × List Char)
  | [] => none
  | c :: rest =>
    match splitLast? mark rest with
    | some (before, after) => some (c :: before, after)
    | none =>
      if mark.isPrefixOf (c :: rest) then some ([], (c :: rest).drop mark.length) else none

/-- A number that 64 bits hold. -/
def number? (digits : List Char) : Option Nat :=
  match Text.number? digits with
  | some value => if value < 18446744073709551616 then some value else none
  | none => none

/-- A line and a column, written as digits with the words between them. -/
def place? (text : List Char) : Option (Nat × Nat) :=
  let afterLine := text.dropWhile Char.isDigit
  if columnMark.isPrefixOf afterLine then do
    let line ← number? (text.takeWhile Char.isDigit)
    let column ← number? (afterLine.drop columnMark.length)
    return (line, column)
  else none

/-- The fault that words describe. -/
def ofText (text : String) : Fault :=
  match splitLast? lineMark text.toList with
  | none => { reason := text }
  | some (before, after) =>
    match place? after with
    | some (line, column) => { reason := String.ofList before, line, column }
    | none => { reason := text }

/-- The words for a fault. -/
def message (fault : Fault) : String :=
  if fault.line = 0 then fault.reason
  else
    fault.reason ++ String.ofList lineMark ++ toString fault.line ++ String.ofList columnMark ++
      toString fault.column

example : (ofText "x at line 007 column 01").message = "x at line 7 column 1" := by decide +kernel
example : (ofText "x at line 0 column 3").message = "x" := by decide +kernel
example : (ofText "x at line +1 column 2").message = "x at line +1 column 2" := by decide +kernel

end Fault

end Conformance.Json
