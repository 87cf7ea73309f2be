/-!
# Decimal digits

The number that a run of ASCII digits stands for; leading zeros count for nothing.
-/

namespace Conformance.Text

/-- The number that a text stands for, if it is made of digits and of nothing else. -/
def number? (text : List Char) : Option Nat :=
  if text.isEmpty || !text.all Char.isDigit then none
  else some (text.foldl (fun value c => 10 * value + (c.toNat - '0'.toNat)) 0)

end Conformance.Text
