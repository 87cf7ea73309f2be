/-!
# JSON values and their text

The JSON values that listings are made of, and the two ways to write them.

* **Values** (`Json`): objects keep the order of their fields, and numbers are integers.
* **Strings** (`Json.quoted`): a quotation mark, a backslash and the characters below U+0020 are
  escaped, by a short escape where JSON has one and by four hexadecimal digits otherwise; every
  other character stands for itself.
* **Compact text** (`Json.compact`): no blank anywhere.
* **Spread text** (`Json.spread`): one element or field a line, two spaces for each level, a space
  after a field's colon, and nothing inside an empty array or object.
-/

namespace Conformance

/-- A JSON value with its object fields in order. -/
inductive Json where
  | null
  | number (value : Int)
  | text (value : String)
  | array (elements : List Json)
  | object (fields : List (String × Json))

namespace Json

/-! ## Strings and numbers -/

/-- The hexadecimal digit of a number below sixteen, in lower case. -/
def hexDigit (digit : Nat) : Char :=
  if digit < 10 then Char.ofNat ('0'.toNat + digit) else Char.ofNat ('a'.toNat + (digit - 10))

/-- A character as it stands inside a JSON string. -/
def escaped (c : Char) : List Char :=
  if c = '"' then ['\\', '"']
  else if c = '\\' then ['\\', '\\']
  else if c = '\x08' then ['\\', 'b']
  else if c = '\t' then ['\\', 't']
  else if c = '\n' then ['\\', 'n']
  else if c = '\x0c' then ['\\', 'f']
  else if c = '\r' then ['\\', 'r']
  else if c.toNat < 0x20 then
    ['\\', 'u', '0', '0', hexDigit (c.toNat / 16), hexDigit (c.toNat % 16)]
  else [c]

/-- A text as a JSON string with its quotation marks. -/
def quoted (text : String) : List Char :=
  '"' :: (text.toList.flatMap escaped ++ ['"'])

/-- An integer in decimal, a minus sign before a negative one. -/
def decimal (value : Int) : List Char :=
  (toString value).toList

/-! ## Compact text -/

mutual

/-- A value without any blank. -/
def compact : Json → List Char
  | null => "null".toList
  | number value => decimal value
  | text value => quoted value
  | array elements => '[' :: (compactElements elements ++ [']'])
  | object fields => '{' :: (compactFields fields ++ ['}'])

/-- Elements with a comma between them. -/
def compactElements : List Json → List Char
  | [] => []
  | [element] => compact element
  | element :: elements => compact element ++ ',' :: compactElements elements

/-- Fields with a comma between them. -/
def compactFields : List (String × Json) → List Char
  | [] => []
  | [(name, value)] => quoted name ++ ':' :: compact value
  | (name, value) :: fields => quoted name ++ ':' :: (compact value ++ ',' :: compactFields fields)

end

/-- A value in one line. -/
def render (value : Json) : String :=
  String.ofList value.compact

/-! ## Spread text -/

/-- A new line that begins with the blanks of a level. -/
def lineAt (level : Nat) : List Char :=
  '\n' :: List.replicate (2 * level) ' '

mutual

/-- A value whose lines after the first stand at `level` or deeper. -/
def spread (level : Nat) : Json → List Char
  | null => "null".toList
  | number value => decimal value
  | text value => quoted value
  | array [] => ['[', ']']
  | array (element :: elements) =>
    '[' :: (lineAt (level + 1) ++ spread (level + 1) element ++
      (spreadElements (level + 1) elements ++ lineAt level ++ [']']))
  | object [] => ['{', '}']
  | object ((name, value) :: fields) =>
    '{' :: (lineAt (level + 1) ++ quoted name ++ ':' :: ' ' :: spread (level + 1) value ++
      (spreadFields (level + 1) fields ++ lineAt level ++ ['}']))

/-- The elements after the first, each on a line of its own after a comma. -/
def spreadElements (level : Nat) : List Json → List Char
  | [] => []
  | element :: elements =>
    ',' :: (lineAt level ++ spread level element ++ spreadElements level elements)

/-- The fields after the first, each on a line of its own after a comma. -/
def spreadFields (level : Nat) : List (String × Json) → List Char
  | [] => []
  | (name, value) :: fields =>
    ',' :: (lineAt level ++ quoted name ++ ':' :: ' ' :: spread level value ++
      spreadFields level fields)

end

/-- A value with one element or field a line. -/
def renderSpread (value : Json) : String :=
  String.ofList (value.spread 0)

end Json

end Conformance
