import Conformance.Toml.DateTime
import Conformance.Toml.Number
import Conformance.Toml.Table

/-!
# The grammar of TOML documents

How the characters of a document make keys, values, assignments and headers.

* **Keys** (`keyPath?`): bare, or quoted in one line, with dots between the parts; fewer than
  eighty parts.
* **Values** (`value?`): strings, numbers, dates and times, booleans, arrays, and tables between
  braces. Arrays may go over lines and end in a comma, tables between braces may do neither.
  Arrays and such tables nest less than eighty deep.
* **Statements** (`statements?`): one assignment or header a line, or an empty line, each with an
  optional comment.

Every reader takes the text from a place on and returns what it read with the text after it, or
nothing where the text does not begin with such a thing.
-/

namespace Conformance.Toml

/-! ## Keys -/

/-- Whether a character may stand in a key without quotation marks. -/
def isBare (c : Char) : Bool :=
  c.isAlphanum || c = '_' || c = '-'

/-- One part of a key. -/
def simpleKey? (text : List Char) : Option (Key × List Char) :=
  let key (name rest : List Char) : Key × List Char := (⟨String.ofList name, text, rest⟩, rest)
  match text with
  | '"' :: _ => (lineString? text).map fun (name, rest) => key name rest
  | '\'' :: _ => (lineString? text).map fun (name, rest) => key name rest
  | _ =>
    match text.takeWhile isBare with
    | [] => none
    | name => some (key name (text.dropWhile isBare))

/-- The most parts that a key may have. -/
def keyLimit : Nat := 79

/-- The parts of a dotted key of at most `limit` parts, with the spaces around them. -/
def keyParts? : (limit : Nat) → List Char → Option (List Key × List Char)
  | 0, _ => none
  | limit + 1, text =>
    match simpleKey? (skipSpace text) with
    | none => none
    | some (key, rest) =>
      match skipSpace rest with
      | '.' :: rest => (keyParts? limit rest).map fun (keys, rest) => (key :: keys, rest)
      | rest => some ([key], rest)

/-- A dotted key: the parts before the last, and the last. -/
def keyPath? (text : List Char) : Option ((List Key × Key) × List Char) :=
  match keyParts? keyLimit text with
  | some (keys, rest) => keys.getLast?.map fun key => ((keys.dropLast, key), rest)
  | none => none

/-! ## Assignments, arrays and tables between braces -/

/-- An assignment whose value `value?` reads. -/
def assignment? (value? : List Char → Option (Item × List Char)) (text : List Char) :
    Option (Assignment × List Char) := do
  let ((path, key), text) ← keyPath? text
  let text ← after? '=' text
  let text := skipSpace text
  let (item, rest) ← value? text
  return (⟨path, ⟨key, ⟨text, rest⟩, item⟩⟩, rest)

/-- The elements of an array after its opening bracket, and the text after the closing one. Each
step reads one element, so that `steps` need not exceed the length of the text. -/
def elements? (value? : List Char → Option (Item × List Char)) :
    (steps : Nat) → List Char → Option (List Item × List Char)
  | 0, _ => none
  | steps + 1, text =>
    match skipFiller false text with
    | ']' :: rest => some ([], rest)
    | text => do
      let (item, rest) ← value? text
      match skipFiller false rest with
      | ']' :: rest => some ([item], rest)
      | ',' :: rest =>
        let (items, rest) ← elements? value? steps rest
        some (item :: items, rest)
      | _ => none

/-- The assignments of a table between braces, at least one, and the text after the closing brace.
Each step reads one assignment. -/
def assignments? (value? : List Char → Option (Item × List Char)) :
    (steps : Nat) → List Char → Option (List Assignment × List Char)
  | 0, _ => none
  | steps + 1, text => do
    let (assignment, rest) ← assignment? value? text
    match skipSpace rest with
    | '}' :: rest => some ([assignment], rest)
    | ',' :: rest =>
      let (assignments, rest) ← assignments? value? steps rest
      some (assignment :: assignments, rest)
    | _ => none

/-- A table between braces after its opening brace. -/
def bracedTable? (value? : List Char → Option (Item × List Char)) (text : List Char) :
    Option (Item × List Char) :=
  match skipSpace text with
  | '}' :: rest => some (.table .braced [], rest)
  | text => do
    let (assignments, rest) ← assignments? value? text.length text
    let entries ← assignAll [] assignments
    some (.table .braced entries, rest)

/-! ## Values -/

/-- A date, a time, a float or an integer. -/
def numeral? (text : List Char) : Option (Item × List Char) :=
  match dateTime? text with
  | some rest =>
    some (.dateTime (String.ofList (text.take (text.length - rest.length))), rest)
  | none =>
    match float? text with
    | some (value, rest) => some (.float value, rest)
    | none => (integer? text).map fun (value, rest) => (.integer value, rest)

/-- A value that is neither an array nor a table. -/
def scalar : List Char → Option (Item × List Char)
  | 't' :: 'r' :: 'u' :: 'e' :: rest => some (.boolean true, rest)
  | 'f' :: 'a' :: 'l' :: 's' :: 'e' :: rest => some (.boolean false, rest)
  | '"' :: rest => (string? ('"' :: rest)).map fun (text, rest) => (.string (.ofList text), rest)
  | '\'' :: rest => (string? ('\'' :: rest)).map fun (text, rest) => (.string (.ofList text), rest)
  | text => numeral? text

/-- How deep arrays and tables between braces may nest. -/
def nestingLimit : Nat := 79

/-- A value in which arrays and tables between braces nest at most `depth` deep. -/
def value? : (depth : Nat) → List Char → Option (Item × List Char)
  | depth + 1, '[' :: rest =>
    (elements? (value? depth) (rest.length + 1) rest).map fun (items, rest) => (.array items, rest)
  | depth + 1, '{' :: rest => bracedTable? (value? depth) rest
  | _, text => scalar text

/-! ## Statements -/

/-- A line of a document. -/
inductive Statement where
  /-- An assignment. -/
  | assignment (assignment : Assignment)
  /-- A header, with double brackets or single ones. -/
  | header (repeated : Bool) (path : List Key) (key : Key) (stretch : Stretch)

/-- A header between single or double brackets, of which the opening ones are read. -/
def header? (repeated : Bool) (start text : List Char) : Option (Statement × List Char) := do
  let ((path, key), text) ← keyPath? text
  let text ← after? ']' text
  let rest ← if repeated then after? ']' text else some text
  return (.header repeated path key ⟨start, rest⟩, rest)

/-- An assignment or a header. -/
def statement? (text : List Char) : Option (Statement × List Char) :=
  match text with
  | '[' :: '[' :: rest => header? true text rest
  | '[' :: rest => header? false text rest
  | _ => (assignment? (value? nestingLimit) text).map fun (assignment, rest) =>
    (.assignment assignment, rest)

/-- Whether a line without its leading spaces holds no statement. -/
def isIdle (text : List Char) : Bool :=
  match text with
  | '#' :: _ => true
  | '\n' :: _ => true
  | '\r' :: _ => true
  | _ => false

/-- The statements of a document. Each step reads one line. -/
def statements? : (steps : Nat) → List Char → Option (List Statement)
  | 0, _ => none
  | steps + 1, text =>
    match skipSpace text with
    | [] => some []
    | text =>
      if isIdle text then
        match endLine? text with
        | some rest => statements? steps rest
        | none => none
      else do
        let (statement, rest) ← statement? text
        let rest ← endLine? rest
        let statements ← statements? steps rest
        return statement :: statements

end Conformance.Toml
