/-!
# Blank characters and trimming

The characters that separate words and lines without ink, and the removal of them from the two
ends of a text.

* **Blank** (`isBlank`): the 25 code points with the Unicode property White_Space.
* **Trimming** (`trim`): the longest run of blanks is removed from either end; blanks inside the
  text stay. The result is the only core that a text has between two runs of blanks.
-/

namespace Conformance.Text

/-- The code points with the property White_Space, as closed ranges in ascending order. -/
def blankRanges : List (Nat × Nat) :=
  [(0x09, 0x0D), (0x20, 0x20), (0x85, 0x85), (0xA0, 0xA0), (0x1680, 0x1680), (0x2000, 0x200A),
    (0x2028, 0x2029), (0x202F, 0x202F), (0x205F, 0x205F), (0x3000, 0x3000)]

/-- Whether a character is blank. -/
def isBlank (c : Char) : Bool :=
  blankRanges.any fun (first, last) => first ≤ c.toNat && c.toNat ≤ last

/-- There are 25 blank code points. -/
example : (blankRanges.map fun (first, last) => last + 1 - first).sum = 25 := by decide

/-- A text without the blanks that end it. -/
def trimEnd (text : List Char) : List Char :=
  (text.reverse.dropWhile isBlank).reverse

/-- A text without the blanks that begin or end it. -/
def trim (text : List Char) : List Char :=
  trimEnd (text.dropWhile isBlank)

end Conformance.Text
