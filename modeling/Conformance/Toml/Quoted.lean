import Conformance.Toml.Blank

/-!
# Strings of a TOML document

The four ways to quote a text, each as a machine that reads one character after the other.

* **Basic strings** stand in quotation marks and have escapes; **literal strings** stand in
  apostrophes and have none. Both end with their line.
* **Long strings**, basic or literal, stand in three of those marks, may go over lines, and lose a
  line end right after the opening marks. One or two marks may stand anywhere inside, also before
  the three that close the string.
* **Escapes** (`escapeStep`): the short ones, and code points of four or eight hexadecimal digits,
  which have to be Unicode scalar values. In a long basic string, a backslash at the end of a line
  removes the line end and all blanks after it.
* **Line ends** inside a string count as one newline character.
-/

namespace Conformance.Toml

/-! ## Machines -/

/-- What a machine does on one character. -/
inductive Step (σ : Type) where
  /-- Yields characters of the string and goes on. -/
  | emit (chars : List Char) (next : σ)
  /-- Yields the last characters; the string ends with this character. -/
  | close (chars : List Char)
  /-- Yields the last characters; the string ended before this character. -/
  | closeBefore (chars : List Char)
  /-- The character cannot stand here. -/
  | fail

/-- Runs a machine over a text, line ends taken as newlines, and returns the string with the text
after it. `atEnd` are the last characters of a string that may end where the text does. -/
def scan {σ : Type} (step : σ → Char → Step σ) (atEnd : σ → Option (List Char)) :
    σ → List Char → Option (List Char × List Char)
  | state, [] => (atEnd state).map fun chars => (chars, [])
  | state, '\r' :: '\n' :: rest =>
    match step state '\n' with
    | .emit chars next =>
      (scan step atEnd next rest).map fun (string, rest) => (chars ++ string, rest)
    | .close chars => some (chars, rest)
    | .closeBefore chars => some (chars, '\r' :: '\n' :: rest)
    | .fail => none
  | state, c :: rest =>
    match step state c with
    | .emit chars next =>
      (scan step atEnd next rest).map fun (string, rest) => (chars ++ string, rest)
    | .close chars => some (chars, rest)
    | .closeBefore chars => some (chars, c :: rest)
    | .fail => none

/-! ## Escapes -/

/-- The value of a hexadecimal digit. -/
def hexValue? (c : Char) : Option Nat :=
  if '0' ≤ c ∧ c ≤ '9' then some (c.toNat - '0'.toNat)
  else if 'a' ≤ c ∧ c ≤ 'f' then some (c.toNat - 'a'.toNat + 10)
  else if 'A' ≤ c ∧ c ≤ 'F' then some (c.toNat - 'A'.toNat + 10)
  else none

/-- The character of a code point. -/
def scalar? (value : Nat) : Option Char :=
  if valid : value.isValidChar then some (Char.ofNatAux value valid) else none

/-- Where a machine stands in a basic string. -/
inductive EscapeState where
  /-- Outside an escape. -/
  | plain
  /-- After a backslash. -/
  | escaped
  /-- Before the last `left + 1` digits of a code point whose earlier digits amount to `value`. -/
  | digits (left value : Nat)

/-- Reads the character after a backslash, or a digit of a code point. -/
def escapeStep : EscapeState → Char → Step EscapeState
  | .digits left value, c =>
    match hexValue? c with
    | none => .fail
    | some digit =>
      match left with
      | left + 1 => .emit [] (.digits left (16 * value + digit))
      | 0 =>
        match scalar? (16 * value + digit) with
        | some char => .emit [char] .plain
        | none => .fail
  | _, c =>
    match c with
    | 'b' => .emit ['\x08'] .plain
    | 't' => .emit ['\t'] .plain
    | 'n' => .emit ['\n'] .plain
    | 'f' => .emit ['\x0c'] .plain
    | 'r' => .emit ['\r'] .plain
    | '"' => .emit ['"'] .plain
    | '\\' => .emit ['\\'] .plain
    | 'u' => .emit [] (.digits 3 0)
    | 'U' => .emit [] (.digits 7 0)
    | _ => .fail

/-! ## Strings of one line -/

/-- The machine for basic strings. -/
def basicStep : EscapeState → Char → Step EscapeState
  | .plain, c =>
    if c = '"' then .close []
    else if c = '\\' then .emit [] .escaped
    else if isPlain c then .emit [c] .plain
    else .fail
  | state, c => escapeStep state c

/-- The machine for literal strings. -/
def literalStep : Unit → Char → Step Unit
  | (), c => if c = '\'' then .close [] else if isPlain c then .emit [c] () else .fail

/-- The string that a text begins with, if it is quoted in one line, and the text after it. -/
def lineString? : List Char → Option (List Char × List Char)
  | '"' :: rest => scan basicStep (fun _ => none) .plain rest
  | '\'' :: rest => scan literalStep (fun _ => none) () rest
  | _ => none

/-! ## Long strings -/

/-- Where a machine stands in a long string. -/
inductive LongState where
  /-- After `count` marks in a row. -/
  | marks (count : Nat)
  /-- Inside an escape. -/
  | escape (state : EscapeState)
  /-- After a backslash and blanks, before a line end. -/
  | lineEnd
  /-- After a line end that a backslash removes, and blanks. -/
  | removed

/-- What a character stands for in a long string outside an escape; `before` are marks that turned
out not to close the string. -/
def longPlain (mark : Char) (escapes : Bool) (before : List Char) (c : Char) : Step LongState :=
  if c = mark then .emit before (.marks 1)
  else if escapes && c = '\\' then .emit before (.escape .escaped)
  else if isPlain c || c = '\n' then .emit (before ++ [c]) (.marks 0)
  else .fail

/-- The machine for long strings with a given mark. -/
def longStep (mark : Char) (escapes : Bool) : LongState → Char → Step LongState
  | .marks count, c =>
    if c = mark then
      if count = 4 then .close [mark, mark] else .emit [] (.marks (count + 1))
    else if 3 ≤ count then .closeBefore (List.replicate (count - 3) mark)
    else longPlain mark escapes (List.replicate count mark) c
  | .escape .escaped, c =>
    if isSpace c then .emit [] .lineEnd
    else if c = '\n' then .emit [] .removed
    else inEscape (escapeStep .escaped c)
  | .escape state, c => inEscape (escapeStep state c)
  | .lineEnd, c =>
    if isSpace c then .emit [] .lineEnd else if c = '\n' then .emit [] .removed else .fail
  | .removed, c =>
    if isSpace c || c = '\n' then .emit [] .removed else longPlain mark escapes [] c
where
  /-- A step of an escape as a step of the string that it stands in. -/
  inEscape : Step EscapeState → Step LongState
    | .emit chars .plain => .emit chars (.marks 0)
    | .emit chars next => .emit chars (.escape next)
    | _ => .fail

/-- The last characters of a long string at the end of the text: it ends there with its closing
marks. -/
def longEnd (mark : Char) : LongState → Option (List Char)
  | .marks count => if 3 ≤ count then some (List.replicate (count - 3) mark) else none
  | _ => none

/-- What follows the opening marks of a long string: a line end right after them counts for
nothing. -/
def longBody (text : List Char) : List Char :=
  (newline? text).getD text

/-- The string that a text begins with and the text after it. -/
def string? : List Char → Option (List Char × List Char)
  | '"' :: '"' :: '"' :: rest =>
    scan (longStep '"' true) (longEnd '"') (.marks 0) (longBody rest)
  | '\'' :: '\'' :: '\'' :: rest =>
    scan (longStep '\'' false) (longEnd '\'') (.marks 0) (longBody rest)
  | text => lineString? text

end Conformance.Toml
