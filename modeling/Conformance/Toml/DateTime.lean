/-!
# Dates and times of a TOML document

Which texts are dates and times: a date, a date and a time with or without an offset, or a time
alone. A day has to exist in its month and year, hours go to 23, minutes to 59 and seconds to 60; a
fraction of a second has any number of digits.
-/

namespace Conformance.Toml

/-- The number of `count` decimal digits that a text begins with, and the text after them. -/
def fixedDigits? : (count : Nat) → (value : Nat) → List Char → Option (Nat × List Char)
  | 0, value, text => some (value, text)
  | count + 1, value, c :: rest =>
    if c.isDigit then fixedDigits? count (10 * value + (c.toNat - '0'.toNat)) rest else none
  | _ + 1, _, [] => none

/-- A number of `count` digits within bounds, and the text after it. -/
def bounded? (count least greatest : Nat) (text : List Char) : Option (Nat × List Char) :=
  match fixedDigits? count 0 text with
  | some (value, rest) => if least ≤ value && value ≤ greatest then some (value, rest) else none
  | none => none

/-- What follows a character that a text begins with. -/
def after? (c : Char) : List Char → Option (List Char)
  | d :: rest => if d = c then some rest else none
  | [] => none

/-- Whether a year has a leap day. -/
def isLeapYear (year : Nat) : Bool :=
  year % 4 = 0 && (year % 100 ≠ 0 || year % 400 = 0)

/-- The number of days of a month. -/
def daysInMonth (year month : Nat) : Nat :=
  if month = 2 then if isLeapYear year then 29 else 28
  else if month = 4 ∨ month = 6 ∨ month = 9 ∨ month = 11 then 30
  else 31

/-- What follows the date that a text begins with. -/
def date? (text : List Char) : Option (List Char) := do
  let (year, text) ← fixedDigits? 4 0 text
  let text ← after? '-' text
  let (month, text) ← bounded? 2 1 12 text
  let text ← after? '-' text
  let (_, text) ← bounded? 2 1 (daysInMonth year month) text
  return text

/-- A text without the fraction of a second it begins with, if it begins with one. -/
def skipFraction : List Char → List Char
  | '.' :: d :: rest => if d.isDigit then rest.dropWhile Char.isDigit else '.' :: d :: rest
  | text => text

/-- What follows the time that a text begins with. -/
def time? (text : List Char) : Option (List Char) := do
  let (_, text) ← bounded? 2 0 23 text
  let text ← after? ':' text
  let (_, text) ← bounded? 2 0 59 text
  let text ← after? ':' text
  let (_, text) ← bounded? 2 0 60 text
  return skipFraction text

/-- What follows the offset that a text begins with. -/
def offset? : List Char → Option (List Char)
  | [] => none
  | c :: rest =>
    if c = 'Z' || c = 'z' then some rest
    else if c = '+' || c = '-' then do
      let (_, text) ← bounded? 2 0 23 rest
      let text ← after? ':' text
      let (_, text) ← bounded? 2 0 59 text
      return text
    else none

/-- What follows the time of day that a text after a date begins with. -/
def timeOfDay? : List Char → Option (List Char)
  | [] => none
  | c :: rest => if c = 'T' || c = 't' || c = ' ' then time? rest else none

/-- What follows the date, the time or both that a text begins with. -/
def dateTime? (text : List Char) : Option (List Char) :=
  match date? text with
  | some rest =>
    match timeOfDay? rest with
    | some rest => some ((offset? rest).getD rest)
    | none => some rest
  | none => time? text

end Conformance.Toml
