import Conformance.Diagnostic
import Conformance.Outline.Dump
import Conformance.Text.Blank

/-!
# Answers and their stored form

What the analyser must print for one program, and the form in which sources and answers are stored
in files.

* **Answer** (`Answer`): the outline of a program that is accepted, or the diagnostic of one that is
  rejected; its text is the outline's dump or the diagnostic's text (`Answer.text`).
* **Stored source** (`storedSource`): the source without the blanks at its ends, so that the first
  line that is not blank is line one.
* **Stored answer** (`storedAnswer`): trimmed likewise and ended by one newline, unless nothing is
  left.
-/

namespace Conformance

/-- The answer that the analyser must give for a program. -/
inductive Answer where
  /-- The program is accepted. -/
  | accepted (outline : Outline)
  /-- The program is rejected. -/
  | rejected (diagnostic : Diagnostic)
  deriving DecidableEq

namespace Answer

/-- Whether the program is accepted. -/
def isAccepted : Answer → Bool
  | accepted _ => true
  | rejected _ => false

/-- The word for the kind of an answer. -/
def label : Answer → String
  | accepted _ => "success"
  | rejected _ => "failure"

/-- The text of an answer, with no newline at its end. -/
def text : Answer → String
  | accepted outline => outline.dump
  | rejected diagnostic => diagnostic.text

end Answer

/-! ## Stored form -/

/-- A source as it is stored. -/
def storedSource (source : String) : String :=
  String.ofList (Text.trim source.toList)

/-- An answer's text as it is stored. -/
def storedAnswer (text : String) : String :=
  let trimmed := storedSource text
  if trimmed = "" then "" else trimmed ++ "\n"

end Conformance
