import Conformance.Decimal.Binary64
import Conformance.Toml.Quoted

/-!
# Numbers of a TOML document

* **Integers** (`integer?`): decimal with an optional sign, or hexadecimal, octal or binary without
  one. They lie within 64 bits, and a decimal one does not begin with a needless zero.
* **Floats** (`float?`): a decimal integer with a fraction, an exponent or both; also the
  infinities and what is no number. One that is too large is refused, unless it is negative, when it
  is the negative infinity.
* **Digits** (`digits?`): single underscores may stand between digits.
-/

namespace Conformance.Toml

/-! ## Digits -/

/-- The digits that a text begins with, and the text after them; an underscore is passed over where
a digit follows it. -/
def digitRun (isDigit : Char → Bool) : List Char → List Char × List Char
  | [] => ([], [])
  | '_' :: d :: rest =>
    if isDigit d then
      let (digits, rest) := digitRun isDigit rest
      (d :: digits, rest)
    else ([], '_' :: d :: rest)
  | c :: rest =>
    if isDigit c then
      let (digits, rest) := digitRun isDigit rest
      (c :: digits, rest)
    else ([], c :: rest)

/-- The digits that a text begins with, where it begins with one, and the text after them. -/
def digits? (isDigit : Char → Bool) : List Char → Option (List Char × List Char)
  | [] => none
  | c :: rest => if isDigit c then some (digitRun isDigit (c :: rest)) else none

/-- The number that digits of a base stand for. -/
def ofDigits (base : Nat) (digits : List Char) : Nat :=
  digits.foldl (fun value c => base * value + (hexValue? c).getD 0) 0

/-- Whether a character is a digit of a base up to sixteen. -/
def isDigitOf (base : Nat) (c : Char) : Bool :=
  match hexValue? c with
  | some value => value < base
  | none => false

/-- The decimal integer without sign that a text begins with: its digits and the text after it. -/
def whole? : List Char → Option (List Char × List Char)
  | '0' :: rest => some (['0'], rest)
  | text => digits? (isDigitOf 10) text

/-- Whether a text begins with a minus sign, and the text after its sign, if it has one. -/
def sign : List Char → Bool × List Char
  | '+' :: rest => (false, rest)
  | '-' :: rest => (true, rest)
  | text => (false, text)

/-! ## Integers -/

/-- Whether 64 bits hold an integer. -/
def fitsInteger (value : Int) : Bool :=
  -9223372036854775808 ≤ value && value ≤ 9223372036854775807

/-- The digits of a base after its mark, as an integer. -/
def based? (base : Nat) (text : List Char) : Option (Int × List Char) :=
  match digits? (isDigitOf base) text with
  | some (digits, rest) =>
    let value : Int := ofDigits base digits
    if fitsInteger value then some (value, rest) else none
  | none => none

/-- The integer that a text begins with and the text after it. -/
def integer? : List Char → Option (Int × List Char)
  | '0' :: 'x' :: rest => based? 16 rest
  | '0' :: 'o' :: rest => based? 8 rest
  | '0' :: 'b' :: rest => based? 2 rest
  | text =>
    let (negative, unsigned) := sign text
    match whole? unsigned with
    | some (digits, rest) =>
      let size : Int := ofDigits 10 digits
      let value := if negative then -size else size
      if fitsInteger value then some (value, rest) else none
    | none => none

/-! ## Floats -/

/-- The digits after a point. -/
def fraction? : List Char → Option (List Char × List Char)
  | '.' :: rest => digits? (isDigitOf 10) rest
  | _ => none

/-- The exponent after its letter. -/
def exponent? : List Char → Option (Int × List Char)
  | c :: rest =>
    if c = 'e' || c = 'E' then
      let (negative, unsigned) := sign rest
      (digits? (isDigitOf 10) unsigned).map fun (digits, rest) =>
        let size : Int := ofDigits 10 digits
        (if negative then -size else size, rest)
    else none
  | [] => none

/-- The float that a text without sign begins with, given the sign before it. -/
def unsignedFloat? (negative : Bool) (text : List Char) : Option (Binary64 × List Char) :=
  match text with
  | 'i' :: 'n' :: 'f' :: rest => some (.infinite negative, rest)
  | 'n' :: 'a' :: 'n' :: rest => some (.notANumber, rest)
  | text => do
    let (digits, afterWhole) ← whole? text
    let (places, afterFraction) := (fraction? afterWhole).getD ([], afterWhole)
    let (power, rest) := (exponent? afterFraction).getD (0, afterFraction)
    if rest.length = afterWhole.length then none
    else
      let value := .ofDecimal negative (ofDigits 10 (digits ++ places)) (power - places.length)
      if value = .infinite false then none else some (value, rest)

/-- The float that a text begins with and the text after it. -/
def float? (text : List Char) : Option (Binary64 × List Char) :=
  let (negative, unsigned) := sign text
  unsignedFloat? negative unsigned

end Conformance.Toml
