/-!
# Binary fractions of 64 bits and their decimal text

The numbers of the 64-bit binary format, read from decimals and written as decimals, in exact
arithmetic on natural numbers.

* **Numbers** (`Binary64`): a sign with a mantissa times a power of two, an infinity, or no number.
* **Reading** (`ofDecimal`): the nearest number of the format, of two equally near ones the one
  with the even mantissa; a decimal beyond the largest number is an infinity.
* **Writing** (`shortest`): of the decimals that read back as the number, those with the fewest
  digits, and of them the nearest; of two equally near ones the larger.
* **Text** (`text`): always positional, with a point and at least one digit on either side of it.
-/

namespace Conformance

/-- A number of the 64-bit binary format. -/
inductive Binary64 where
  /-- The mantissa times two to the exponent, with a sign. -/
  | finite (negative : Bool) (mantissa : Nat) (exponent : Int)
  /-- An infinity with its sign. -/
  | infinite (negative : Bool)
  /-- What is no number. -/
  | notANumber
  deriving DecidableEq

namespace Binary64

/-! ## Reading -/

/-- The least exponent of the format. -/
def leastExponent : Int := -1074

/-- The greatest exponent of the format. -/
def greatestExponent : Int := 971

/-- The least mantissa of 53 bits, which is as many as a mantissa may have. -/
def leastNormal : Nat := 4503599627370496

/-- The quotient rounded to the nearest integer, of two equally near ones to the even one. -/
def roundQuotient (num den : Nat) : Nat :=
  let whole := num / den
  let rest := num % den
  if 2 * rest < den then whole
  else if den < 2 * rest then whole + 1
  else if whole % 2 = 0 then whole
  else whole + 1

/-- A numerator and a denominator of a quotient divided by a power of the base. -/
def scaleDown (base num den : Nat) (power : Int) : Nat × Nat :=
  if 0 ≤ power then (num, den * Nat.pow base power.toNat)
  else (num * Nat.pow base (-power).toNat, den)

/-- The nearest number of the format to a positive quotient. -/
def ofQuotient (negative : Bool) (num den : Nat) : Binary64 :=
  let span : Int := (num.log2 : Int) - den.log2
  let (scaledNum, scaledDen) := scaleDown 2 num den span
  let exact : Int := if scaledDen ≤ scaledNum then span - 52 else span - 53
  let exponent := max exact leastExponent
  let (scaledNum, scaledDen) := scaleDown 2 num den exponent
  let mantissa := roundQuotient scaledNum scaledDen
  let (mantissa, exponent) :=
    if mantissa = leastNormal * 2 then (leastNormal, exponent + 1) else (mantissa, exponent)
  if greatestExponent < exponent then infinite negative else finite negative mantissa exponent

/-- The number of decimal digits of a number; zero has one. -/
def digitCount (value : Nat) : Nat :=
  (Nat.toDigits 10 value).length

/-- The nearest number of the format to `digits` times ten to `power`. Decimals that are far beyond
the format's range are told by their size alone. -/
def ofDecimal (negative : Bool) (digits : Nat) (power : Int) : Binary64 :=
  let size := (digitCount digits : Int) + power
  if digits = 0 ∨ size < -330 then finite negative 0 leastExponent
  else if 310 < size then infinite negative
  else
    let (num, den) := scaleDown 10 digits 1 (-power)
    ofQuotient negative num den

/-! ## Writing -/

/-- The decimals that read back as one number: those between two bounds, the bounds themselves
included or not. All three values are numerators over `den`. -/
structure Reach where
  /-- The lower bound. -/
  least : Nat
  /-- The number itself. -/
  exact : Nat
  /-- The upper bound. -/
  greatest : Nat
  /-- The common denominator. -/
  den : Nat
  /-- Whether the bounds belong to it. -/
  closed : Bool

/-- The decimals that read back as a mantissa times two to an exponent. Below a power of two the
next number is half as far away as above it. -/
def reach (mantissa : Nat) (exponent : Int) : Reach :=
  let below := if mantissa = leastNormal ∧ leastExponent < exponent then 1 else 2
  let unit := exponent - 2
  let factor := Nat.pow 2 unit.toNat
  { least := (4 * mantissa - below) * factor
    exact := 4 * mantissa * factor
    greatest := (4 * mantissa + 2) * factor
    den := Nat.pow 2 (-unit).toNat
    closed := mantissa % 2 = 0 }

/-- The multiple of ten to `power` that is nearest to the exact value, among its two neighbours of
that form that read back. -/
def Reach.multiple? (reach : Reach) (power : Int) : Option Nat :=
  let unit := Nat.pow 10 (-power).toNat
  let step := reach.den * Nat.pow 10 power.toNat
  let readsBack (count : Nat) : Bool :=
    if reach.closed then reach.least * unit ≤ count * step && count * step ≤ reach.greatest * unit
    else reach.least * unit < count * step && count * step < reach.greatest * unit
  let lower := reach.exact * unit / step
  let upper := lower + 1
  match readsBack lower, readsBack upper with
  | true, true =>
    if reach.exact * unit - lower * step < upper * step - reach.exact * unit then some lower
    else some upper
  | true, false => some lower
  | false, true => some upper
  | false, false => none

/-- The first power, from `power` downwards, with a multiple that reads back. -/
def Reach.search (reach : Reach) : (steps : Nat) → (power : Int) → Nat × Int
  | 0, power => (0, power)
  | steps + 1, power =>
    match reach.multiple? power with
    | some count => (count, power)
    | none => reach.search steps (power - 1)

/-- The digits and the power of ten of the shortest decimal that reads back. The search begins at a
power above the number; seventeen digits always suffice. -/
def shortest (mantissa : Nat) (exponent : Int) : Nat × Int :=
  let bits : Int := mantissa.log2 + 1 + exponent
  let above : Int := if 0 ≤ bits then bits * 30103 / 100000 + 1 else -(-bits * 30102 / 100000)
  (reach mantissa exponent).search 20 above

/-- A decimal in positional notation. -/
def positional (digits : Nat) (power : Int) : String :=
  let shown := Nat.toDigits 10 digits
  if 0 ≤ power then String.ofList (shown ++ List.replicate power.toNat '0' ++ ['.', '0'])
  else
    let places := (-power).toNat
    let padded := List.replicate (places + 1 - shown.length) '0' ++ shown
    let whole := padded.length - places
    String.ofList (padded.take whole ++ '.' :: padded.drop whole)

/-- The text of a number. -/
def text : Binary64 → String
  | finite negative mantissa exponent =>
    let sign := if negative then "-" else ""
    if mantissa = 0 then sign ++ "0.0"
    else
      let (digits, power) := shortest mantissa exponent
      sign ++ positional digits power
  | infinite negative => if negative then "-inf" else "inf"
  | notANumber => "NaN"

example : (ofDecimal false 15 (-1)).text = "1.5" := by decide +kernel
example : (ofDecimal true 0 0).text = "-0.0" := by decide +kernel
example : (ofDecimal false 1 23).text = "100000000000000000000000.0" := by decide +kernel
example : (ofDecimal false 1 (-7)).text = "0.0000001" := by decide +kernel
example : (ofDecimal false 30000000000000004 (-17)).text = "0.30000000000000004" := by
  decide +kernel
example : ofDecimal false 17976931348623159 292 = infinite false := by decide +kernel

end Binary64

end Conformance
