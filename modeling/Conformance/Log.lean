import Conformance.Fixture.Emission
import Conformance.Fixture.Inspection
import Conformance.Text.Digits

/-!
# Log lines

What a run reports on the side, and how much of it is wanted.

* **Levels** (`LogLevel`): from errors to traces, the later ones the more verbose; a level admits
  the events of its own severity and of the graver ones.
* **Level names** (`LogLevel.ofText?`): a word in any letter case, or a number from one to five.
* **Events** (`Event`): what emission and comparison report; they follow from what was done
  (`Emission.events`, `Inspection.events`).
-/

namespace Conformance

/-- A severity, and the verbosity that admits events of this severity and graver ones. -/
inductive LogLevel where
  | error
  | warn
  | info
  | debug
  | trace
  deriving DecidableEq

namespace LogLevel

/-- The place of a level, from the gravest on. -/
def rank : LogLevel → Nat
  | error => 1
  | warn => 2
  | info => 3
  | debug => 4
  | trace => 5

/-- Whether a verbosity admits events of a severity. -/
def admits (verbosity severity : LogLevel) : Bool :=
  severity.rank ≤ verbosity.rank

/-- The name of a level, right-aligned in five columns. -/
def label : LogLevel → String
  | error => "ERROR"
  | warn => " WARN"
  | info => " INFO"
  | debug => "DEBUG"
  | trace => "TRACE"

/-- The level of a rank. -/
def ofRank? : Nat → Option LogLevel
  | 1 => some error
  | 2 => some warn
  | 3 => some info
  | 4 => some debug
  | 5 => some trace
  | _ => none

/-- The level of a name in small letters. -/
def ofName? : String → Option LogLevel
  | "error" => some error
  | "warn" => some warn
  | "info" => some info
  | "debug" => some debug
  | "trace" => some trace
  | _ => none

/-- The number that a text stands for, where a plus sign may stand before its digits. -/
def number? : List Char → Option Nat
  | '+' :: digits => Text.number? digits
  | digits => Text.number? digits

/-- The level that a text names. -/
def ofText? (text : String) : Option LogLevel :=
  match number? text.toList with
  | some number => ofRank? number
  | none => ofName? (String.ofList (text.toList.map Char.toLower))

end LogLevel

/-! ## Events -/

/-- What is reported on the side. -/
inductive Event where
  /-- The files of a scenario were written. -/
  | wrote (scenario : Scenario)
  /-- A suite was written. -/
  | emitted (summary : EmissionSummary)
  /-- A file is out of date. -/
  | deviated (deviation : Deviation)

namespace Event

/-- The severity of an event. -/
def severity : Event → LogLevel
  | wrote _ => .debug
  | emitted _ => .info
  | deviated _ => .warn

/-- What an event says. -/
def text : Event → String
  | wrote scenario =>
    "wrote fixture name=" ++ scenario.name ++ " outcome=\"" ++ scenario.answer.label ++ "\""
  | emitted summary =>
    "emitted fixtures fixtures=" ++ toString summary.scenarios ++ " files=" ++
      toString summary.files ++ " dir=" ++ summary.dir.text
  | deviated (.missing path) => "fixture missing path=" ++ path.text
  | deviated (.differs path) => "fixture differs from catalogue path=" ++ path.text

/-- The line that reports an event. The time of the event, which a log puts before the severity, is
left out. -/
def line (event : Event) : String :=
  event.severity.label ++ " semfix::emit: " ++ event.text ++ "\n"

end Event

/-- The events of an emission in order. -/
def Emission.events (emission : Emission) : List Event :=
  emission.written.map .wrote ++
    match emission.summary with
    | .ok summary => [.emitted summary]
    | .error _ => []

/-- The events of a comparison in order. -/
def Inspection.events (inspection : Inspection) : List Event :=
  inspection.deviations.map .deviated

/-- The lines for the events that a verbosity admits, in order. -/
def logLines (verbosity : LogLevel) (events : List Event) : List String :=
  (events.filter fun event => verbosity.admits event.severity).map Event.line

end Conformance
