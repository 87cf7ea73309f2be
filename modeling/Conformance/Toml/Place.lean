import Conformance.Text.Lines
import Conformance.Toml.Table

/-!
# Places in a document and how they are shown

* **Place** (`Stretch.place`): the line and the column where a stretch starts, both counted from
  one, columns in characters.
* **Excerpt** (`Place.excerpt`): the line under a heading, with carets below the part of the
  stretch that lies in it, at least one.
-/

namespace Conformance.Toml

/-- Where a stretch of a document starts and how far it reaches in its first line. -/
structure Place where
  /-- The line, counted from one. -/
  line : Nat
  /-- The column, counted from one. -/
  column : Nat
  /-- The text of the line. -/
  text : String
  /-- The number of carets below it. -/
  width : Nat
  deriving DecidableEq

/-- The place of a stretch in its document. Widths are counted in bytes, and the line is taken to
have as many bytes before the stretch as characters. -/
def Stretch.place (document : List Char) (stretch : Stretch) : Place :=
  let before := document.take (document.length - stretch.start.length)
  let inner := stretch.start.take (stretch.start.length - stretch.stop.length)
  let line := before.count '\n'
  let column := (before.reverse.takeWhile (· ≠ '\n')).length
  let text := ((Text.lines document)[line]?).getD []
  { line := line + 1
    column := column + 1
    text := String.ofList text
    width := max 1 (min (Text.byteLength inner) (Text.byteLength text - column)) }

/-- A character a number of times. -/
def repeated (count : Nat) (c : Char) : String :=
  String.ofList (List.replicate count c)

/-- The lines that show a place, each with a newline. -/
def Place.excerpt (place : Place) : String :=
  let number := toString place.line
  let gutter := repeated (number.length + 1) ' ' ++ "|"
  "TOML parse error at line " ++ number ++ ", column " ++ toString place.column ++ "\n" ++
    gutter ++ "\n" ++
    number ++ " | " ++ place.text ++ "\n" ++
    gutter ++ repeated place.column ' ' ++ repeated place.width '^' ++ "\n"

end Conformance.Toml
