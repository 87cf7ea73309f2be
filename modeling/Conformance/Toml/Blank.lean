/-!
# What may stand between the parts of a TOML document

Spaces, line ends and comments.

* **Spaces** (`skipSpace`): spaces and tabs, within a line.
* **Line ends** (`newline?`, `endLine?`): a newline, alone or after a carriage return; before it a
  line may end in a comment, and the last line needs none.
* **Comments**: from a number sign to the end of the line. They hold no control character but tabs.
* **Filler** (`skipFiller`): all of these, between the elements of an array.
-/

namespace Conformance.Toml

/-- Whether a character may stand in a comment or, unless it has a meaning there, in a string of
one line: it is a tab or no ASCII control character. -/
def isPlain (c : Char) : Bool :=
  c = '\t' || (0x20 ≤ c.toNat && c.toNat ≠ 0x7F)

/-- Whether a character separates words within a line. -/
def isSpace (c : Char) : Bool :=
  c = ' ' || c = '\t'

/-- A text without the spaces it begins with. -/
def skipSpace (text : List Char) : List Char :=
  text.dropWhile isSpace

/-- What follows the line end that a text begins with. -/
def newline? : List Char → Option (List Char)
  | '\n' :: rest => some rest
  | '\r' :: '\n' :: rest => some rest
  | _ => none

/-- A text without the comment it begins with. -/
def skipComment : List Char → List Char
  | '#' :: rest => rest.dropWhile isPlain
  | text => text

/-- The next line, where a text holds nothing more of its line than spaces and a comment. -/
def endLine? (text : List Char) : Option (List Char) :=
  match skipComment (skipSpace text) with
  | [] => some []
  | rest => newline? rest

/-- A text without the spaces, line ends and comments it begins with. -/
def skipFiller (inComment : Bool) : List Char → List Char
  | [] => []
  | '\r' :: '\n' :: rest => skipFiller false rest
  | c :: rest =>
    if inComment && isPlain c then skipFiller true rest
    else if isSpace c || c = '\n' then skipFiller false rest
    else if c = '#' then skipFiller true rest
    else c :: rest

end Conformance.Toml
