/-!
# Text without controls

What remains of a text when everything that would steer a terminal is taken out of it.

* **Shown characters** (`isShown`): all but the ASCII control characters; of these, the tab, the
  line feed, the form feed and the carriage return are shown.
* **Sequences** (`Sequence`): an escape character begins one, wherever it stands. What follows says
  where it ends (`Sequence.next`); a cancel or a substitute character ends any.
* **Removal** (`withoutControls`): inside a sequence nothing is shown. A line feed or its like
  in the head of a sequence is an exception: it is shown, and so is what follows it up to the next
  control character, where the sequence goes on.
-/

namespace Conformance.Text

/-- Whether a character is one of the control characters that are shown. -/
def isLayout (c : Char) : Bool :=
  c = '\t' || c = '\n' || c = '\x0c' || c = '\r'

/-- Whether a character is shown outside a sequence. -/
def isShown (c : Char) : Bool :=
  isLayout c || (0x20 ≤ c.toNat && c.toNat ≠ 0x7F)

/-! ## Sequences -/

/-- Where a text stands in a sequence that steers a terminal. -/
inductive Sequence where
  /-- Outside. -/
  | outside
  /-- After an escape character. -/
  | escape
  /-- After an escape character and marks of its name, before the last character of the name. -/
  | named
  /-- In a control sequence, before its last character. -/
  | control
  /-- At the start of a device control string. -/
  | device
  /-- Among the numbers of a device control string. -/
  | deviceNumbers
  /-- Among the marks of a device control string. -/
  | deviceMarks
  /-- In the text of a device control string or of another string. -/
  | string
  /-- In a command to the operating system. -/
  | command
  deriving DecidableEq

namespace Sequence

/-- The place after an escape character and another character. -/
def afterEscape (c : Char) : Sequence :=
  if c = '[' then control
  else if c = ']' then command
  else if c = 'P' then device
  else if c = 'X' || c = '^' || c = '_' then string
  else outside

/-- The place after a character. A string ends with a byte of value 9C in hexadecimal, which may be
part of a character. -/
def next (place : Sequence) (c : Char) : Sequence :=
  let within (first last : Nat) : Bool := first ≤ c.toNat && c.toNat ≤ last
  if c = '\x1b' then escape
  else if c = '\x18' || c = '\x1a' then outside
  else
    match place with
    | outside => outside
    | escape =>
      if within 0x20 0x2F then named
      else if within 0x30 0x7E then afterEscape c
      else escape
    | named => if within 0x30 0x7E then outside else named
    | control => if within 0x40 0x7E then outside else control
    | device =>
      if within 0x20 0x2F then deviceMarks
      else if within 0x30 0x3F then deviceNumbers
      else if within 0x40 0x7E then string
      else device
    | deviceNumbers =>
      if within 0x20 0x2F then deviceMarks
      else if within 0x3C 0x7E then string
      else deviceNumbers
    | deviceMarks => if within 0x30 0x7E then string else deviceMarks
    | string => if (String.utf8EncodeChar c).contains 0x9C then outside else string
    | command => if c = '\x07' then outside else command

/-- Whether a character is shown at a place. -/
def shows (place : Sequence) (c : Char) : Bool :=
  match place with
  | outside => isShown c
  | escape => isLayout c
  | named => isLayout c
  | control => isLayout c
  | _ => false

end Sequence

/-! ## Removal -/

/-- The shown characters of a text that begins at a place; `shown` says that the character before it
was shown. A character beyond ASCII ends the sequence in which it is shown. -/
def withoutControls (place : Sequence) (shown : Bool) : List Char → List Char
  | [] => []
  | c :: rest =>
    if shown && isShown c then
      c :: withoutControls (if c.toNat < 0x80 then place else .outside) true rest
    else if place.shows c then c :: withoutControls (place.next c) true rest
    else withoutControls (place.next c) false rest

/-- A text without its controls. -/
def printable (text : String) : String :=
  String.ofList (withoutControls .outside true text.toList)

/-- A text whose characters are all shown stays as it is. -/
theorem withoutControls_of_isShown (place : Sequence) (text : List Char)
    (allShown : ∀ c ∈ text, isShown c = true) : withoutControls place true text = text := by
  induction text generalizing place with
  | nil => rfl
  | cons c rest ih =>
    have firstShown : isShown c = true := allShown c List.mem_cons_self
    have restShown : ∀ d ∈ rest, isShown d = true := fun d member =>
      allShown d (List.mem_cons_of_mem c member)
    simp [withoutControls, firstShown, ih _ restShown]

example : printable "x\x1b[31my\x07" = "xy" := by decide +kernel
example : printable "x\x1b]0;title\x1b\\y" = "xy" := by decide +kernel
example : printable "x\x1b[3\t1m\x01zy" = "x\t1my" := by decide +kernel

end Conformance.Text
