import Conformance.Diagnostic
import Conformance.Text.Lines
import Conformance.Text.Width

/-!
# Diagnostics shown in their source

The report of an expected diagnostic: a heading, the place, and the line of the source with a label
below it.

* **Where** (`place?`): the label covers the diagnostic's line. Its bounds are counted in bytes, and
  the report takes them for positions of characters.
* **Lines of the report** (`reportLines`): they end after any of the line terminators of Unicode,
  not only after a newline, and keep their terminator.
* **Glyphs** (`labelRow`, `messageRow`): below the line, a rule under the label with a branch in its
  middle; below that, the branch turns right and leads to the message.
* **Without a line** (`expectedReport`): a diagnostic with no line, or with one that the source does
  not have, is reported in one line of text.
-/

namespace Conformance.Excerpt

/-! ## Lines of the report -/

/-- Whether a character ends a line of the report. -/
def endsLine (c : Char) : Bool :=
  c = '\n' || c = '\x0b' || c = '\x0c' || c = '\r' || c = '\u0085' || c = '\u2028' || c = '\u2029'

/-- The lines of a text, each with its terminator; a carriage return and a newline after it are one
terminator. What follows the last terminator is a line if there is anything. -/
def reportLines : List Char → List (List Char)
  | [] => []
  | '\r' :: '\n' :: rest => ['\r', '\n'] :: reportLines rest
  | c :: rest =>
    if endsLine c then [c] :: reportLines rest
    else
      match reportLines rest with
      | [] => [[c]]
      | first :: others => (c :: first) :: others

/-- A line of the report. -/
structure Line where
  /-- Its number, counted from one. -/
  number : Nat
  /-- The position of its first character in the text. -/
  offset : Nat
  /-- Its characters with its terminator. -/
  chars : List Char

/-- The line that holds a position, among lines of which the first has a given number and offset;
the last line also holds the positions after it. -/
def lineAt? (position number offset : Nat) : List (List Char) → Option Line
  | [] => none
  | [chars] => some ⟨number, offset, chars⟩
  | chars :: next :: others =>
    if position < offset + chars.length then some ⟨number, offset, chars⟩
    else lineAt? position (number + 1) (offset + chars.length) (next :: others)

/-- The line of a text that holds a position; the position after the last character counts, one
beyond it does not. -/
def locate (text : List Char) (position : Nat) : Option Line :=
  if text.length < position then none else lineAt? position 1 0 (reportLines text)

/-! ## Colours -/

/-- A text in one of the 256 colours of a terminal. -/
def coloured (colour : Nat) (text : String) : String :=
  "\x1b[38;5;" ++ toString colour ++ "m" ++ text ++ "\x1b[0m"

/-- The colour of the frame. -/
def frame (text : String) : String := coloured 246 text

/-- The colour of the frame beside the label. -/
def faint (text : String) : String := coloured 240 text

/-- The colour of source text outside the label. -/
def outside (text : String) : String := coloured 249 text

/-- A character a number of times. -/
def run (count : Nat) (c : Char) : String :=
  String.ofList (List.replicate count c)

/-! ## Rows -/

/-- A label in a line: the positions it covers, counted from the start of the line. -/
structure Label where
  /-- The first position. -/
  start : Nat
  /-- The position after the last one. -/
  stop : Nat
  /-- The position of the branch to the message. -/
  middle : Nat

/-- Whether a label covers a position. -/
def Label.covers (label : Label) (position : Nat) : Bool :=
  label.start ≤ position && position < label.stop

/-- The columns that the character at a position of a line takes, one beyond its end. -/
def columns (chars : List Char) (position : Nat) : Nat :=
  match chars[position]? with
  | some c => Text.width c position
  | none => 1

/-- The characters of a line with its blanks as spaces, those outside the label in their colour. -/
def sourceRow (label : Label) : (position : Nat) → List Char → String
  | _, [] => ""
  | position, c :: rest =>
    let shown := if Text.isBlank c then List.replicate (Text.width c position) ' ' else [c]
    let row :=
      if label.covers position then String.ofList shown
      else String.join (shown.map fun c => outside c.toString)
    row ++ sourceRow label (position + 1) rest

/-- A glyph for the first column of a position and one for its other columns. -/
structure Glyph where
  /-- The first column. -/
  first : Char
  /-- Any other column. -/
  other : Char

/-- A glyph drawn over a number of columns. -/
def Glyph.draw (glyph : Glyph) : Nat → String
  | 0 => ""
  | others + 1 => glyph.first.toString ++ run others glyph.other

/-- The glyph at a position of the row that underlines the label. -/
def labelGlyph (label : Label) (position : Nat) : Glyph :=
  if position = label.middle then if label.covers position then ⟨'┬', '─'⟩ else ⟨'│', ' '⟩
  else if label.covers position then ⟨'─', '─'⟩
  else ⟨' ', ' '⟩

/-- The glyph at a position of the row that leads to the message. -/
def messageGlyph (label : Label) (position : Nat) : Glyph :=
  if position = label.middle then ⟨'╰', '─'⟩
  else if label.middle < position then ⟨'─', '─'⟩
  else ⟨' ', ' '⟩

/-- A row of glyphs below a line, to two positions beyond the label. -/
def glyphRow (glyph : Nat → Glyph) (label : Label) (line : List Char) : String :=
  String.join ((List.range (label.stop + 2)).map fun position =>
    (glyph position).draw (columns line position))

/-! ## The report -/

/-- Where a report puts its label. -/
structure Placement where
  /-- The line that the report shows. -/
  line : Line
  /-- The label in that line. -/
  label : Label

/-- The placement of a label over a span of a source, the span's bounds taken for positions of
characters. There is none where either end of the span is beyond the source. -/
def place? (source : List Char) (span : Text.Span) : Option Placement :=
  match locate source span.start with
  | none => none
  | some line =>
    if span.start < span.stop ∧ (locate source (span.stop - 1)).isNone then none
    else
      some
        { line
          label :=
            { start := span.start - line.offset
              stop := span.stop - line.offset
              middle := (span.start + span.stop) / 2 - line.offset } }

/-- The rows below the heading: the place, the line with its label, and the foot. Where the label
reaches beyond the line, the line is left out. -/
def Placement.render (placement : Placement) (message : String) : String :=
  let line := placement.line
  let label := placement.label
  let number := toString line.number
  let wide := number.length
  let margin := " " ++ faint (run (wide + 1) ' ' ++ "│") ++ " "
  let shown := Text.trimEnd line.chars
  let body :=
    if line.chars.length < label.stop then margin ++ "\n"
    else
      " " ++ frame (number ++ " │") ++ " " ++ sourceRow label 0 shown ++ "\n" ++
        margin ++ glyphRow (labelGlyph label) label shown ++ "\n" ++
        margin ++ glyphRow (messageGlyph label) label shown ++ " " ++ message ++ "\n"
  run (wide + 2) ' ' ++ frame "╭" ++ frame "─" ++ frame "[" ++ "<unknown>:" ++ number ++ ":" ++
    toString (label.start + 1) ++ frame "]" ++ "\n" ++
    run (wide + 2) ' ' ++ frame "│" ++ "\n" ++
    body ++
    frame (run (wide + 2) '─' ++ "╯") ++ "\n"

/-- The line that heads the report for the scenario of a name. -/
def heading (name : String) : String :=
  "\x1b[31mError:\x1b[0m expected diagnostic for " ++ name ++ "\n"

end Conformance.Excerpt

namespace Conformance

/-- What is shown of the diagnostic that a scenario expects, given its source. Only the
heading remains of a report without a place for its label. -/
def expectedReport (source name : String) (diagnostic : Diagnostic) : String :=
  match diagnostic.line.bind (Text.lineSpan? source.toList) with
  | some span =>
    match Excerpt.place? source.toList span with
    | some placement => Excerpt.heading name ++ placement.render diagnostic.violation.message
    | none => Excerpt.heading name
  | none => "expected diagnostic for " ++ name ++ ": " ++ diagnostic.text ++ "\n"

end Conformance
