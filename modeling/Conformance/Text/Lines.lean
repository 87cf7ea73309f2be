/-!
# Lines of a text

A text as lines with a newline between them, and the places of the lines in bytes.

* **Lines** (`lines`): only the newline U+000A separates; a text with `n` newlines has `n + 1`
  lines, the empty text one empty line.
* **Places** (`Span`, `lineSpan?`): the bytes that a line takes in the UTF-8 form of its text,
  without its newline; lines count from one, and a number beyond the last line has no place.
-/

namespace Conformance.Text

/-- The lines of a text, newlines left out. -/
def lines (text : List Char) : List (List Char) :=
  text.splitOn '\n'

/-- The number of bytes of a text in UTF-8. -/
def byteLength : List Char → Nat
  | [] => 0
  | c :: rest => c.utf8Size + byteLength rest

/-- The bytes of two texts, one after the other, add up. -/
@[simp] theorem byteLength_append (first second : List Char) :
    byteLength (first ++ second) = byteLength first + byteLength second := by
  induction first with
  | nil => simp [byteLength]
  | cons c rest ih => simp [byteLength, ih, Nat.add_assoc]

/-- The bytes of a string's characters are the bytes of the string. -/
@[simp] theorem byteLength_toList (text : String) :
    byteLength text.toList = text.utf8ByteSize := by
  suffices sameBytes : ∀ chars : List Char, byteLength chars = chars.utf8Encode.size by
    simpa [← String.size_toByteArray] using sameBytes text.toList
  intro chars
  induction chars with
  | nil => rfl
  | cons c rest ih =>
    rw [List.utf8Encode_cons, ByteArray.size_append, List.utf8Encode_singleton, ← ih]
    simp [byteLength]

/-- A run of bytes, from `start` up to but not including `stop`. -/
structure Span where
  /-- The first byte. -/
  start : Nat
  /-- The byte after the last one. -/
  stop : Nat
  deriving DecidableEq

/-- The place of the line at an index, counted from zero, among lines of which the first begins at
byte `start`. -/
def spanAt? (start : Nat) : List (List Char) → Nat → Option Span
  | [], _ => none
  | line :: _, 0 => some ⟨start, start + byteLength line⟩
  | line :: others, index + 1 => spanAt? (start + byteLength line + 1) others index

/-- The place of a line, counted from one, in a text. -/
def lineSpan? (text : List Char) : Nat → Option Span
  | 0 => none
  | index + 1 => spanAt? 0 (lines text) index

/-- The characters of a text from one byte up to another, where both are at the boundary of a
character. -/
def slice (text : List Char) (span : Span) : List Char :=
  go 0 text
where
  /-- The part of the remaining text, which begins at byte `place`. -/
  go (place : Nat) : List Char → List Char
    | [] => []
    | c :: rest =>
      if span.stop ≤ place then []
      else if span.start ≤ place then c :: go (place + c.utf8Size) rest
      else go (place + c.utf8Size) rest

end Conformance.Text
