import Conformance.CommandLine.Reading
import Conformance.Excerpt
import Conformance.Listing
import Conformance.Log
import Conformance.Settings.File
import Conformance.Suite.Standard

/-!
# Runs of the program

What the program prints and with which status it ends.

* **Order** (`perform`): the configuration is loaded first; where it cannot be, nothing else is
  done. The log level comes from the command line, or else from the configuration; one that is not
  known is reported and taken for warnings.
* **Directory** (`execute`): the one given on the command line, or else the one of the
  configuration.
* **Status** (`Outcome.code`): zero, or one for an error and for files that are out of date, or
  two for a mistaken command line.
* **Error output** (`Outcome.stderr`): what is said about the log level, then the log lines, then
  what the command has to say.
-/

namespace Conformance.CommandLine

/-- What a run leaves behind besides its files. -/
structure Outcome where
  /-- The status it ends with. -/
  code : Nat
  /-- What it prints on the standard output. -/
  stdout : String
  /-- What it says about its log level. -/
  warning : String := ""
  /-- Its log lines. -/
  log : List String := []
  /-- What else it says on the error output. -/
  messages : String
  deriving DecidableEq

/-- What a run prints on the error output. -/
def Outcome.stderr (outcome : Outcome) : String :=
  outcome.warning ++ String.join outcome.log ++ outcome.messages

/-- The outcome of a run that ends with an error. -/
def Outcome.failed (error : Error) : Outcome :=
  { code := 1, stdout := "", messages := error.report ++ "\n" }

/-! ## Commands -/

/-- What is listed of a scenario in plain text: the kind of its answer, filled up to eight columns,
and its name. -/
def listRow (scenario : Scenario) : String :=
  padded 8 scenario.answer.label ++ " " ++ scenario.name ++ "\n"

/-- The outcome of listing a suite, as JSON or in plain text. -/
def list (suite : Suite) (json : Bool) : Outcome :=
  { code := 0
    stdout := if json then suite.listing ++ "\n" else String.join (suite.scenarios.map listRow)
    messages := "" }

/-- What is shown of a scenario on the standard output: the texts of its two files. -/
def displayText (scenario : Scenario) : String :=
  "── " ++ scenario.name ++ ".in\n" ++ scenario.sourceText ++ "\n" ++
    "── " ++ scenario.name ++ ".out\n" ++ scenario.answerText

/-- What is shown of a scenario on the error output: its diagnostic in its source. -/
def displayReport (scenario : Scenario) : String :=
  match scenario.answer with
  | .accepted _ => ""
  | .rejected diagnostic => expectedReport scenario.sourceText scenario.name diagnostic

/-- The outcome of showing the scenario of a name. -/
def display (suite : Suite) (name : String) : Outcome :=
  match suite.get name with
  | .error error => .failed error
  | .ok scenario =>
    { code := 0, stdout := displayText scenario, messages := displayReport scenario }

/-- The outcome of an emission. -/
def ofEmission (emission : Emission) : Outcome :=
  match emission.summary with
  | .error error => .failed error
  | .ok summary =>
    { code := 0
      stdout := summary.message ++ "\n" ++ "Make sure to run 'make' before testing.\n"
      messages := "" }

/-- What is said of files that are out of date: a line for each, and their number. -/
def deviationText (dir : Path) (deviations : List Deviation) : String :=
  String.join (deviations.map fun deviation => deviation.display ++ "\n") ++
    toString deviations.length ++ " fixture file(s) out of date in '" ++ dir.text ++ "'\n"

/-- The outcome of comparing a directory. -/
def ofInspection (dir : Path) (inspection : Inspection) : Outcome :=
  match inspection.result with
  | .error error => .failed error
  | .ok [] =>
    { code := 0, stdout := "fixtures in '" ++ dir.text ++ "' are up to date\n", messages := "" }
  | .ok deviations => { code := 1, stdout := "", messages := deviationText dir deviations }

/-! ## Runs -/

/-- The verbosity that a text asks for, and what is said about a text that names none. -/
def verbosity (text : String) : LogLevel × String :=
  match LogLevel.ofText? text with
  | some level => (level, "")
  | none => (.warn, "warning: unknown log level '" ++ text ++ "', using warn\n")

variable {m : Type → Type} [Monad m] [Storage m]

/-- The settings that an invocation asks for. -/
def settingsFor [Toml.Wording] (invocation : Invocation) : m (Except Error Settings) :=
  match invocation.config with
  | some path => Settings.load path
  | none => Settings.discover ⟨"."⟩

/-- Carries out a command with settings, and returns the events to log with the outcome. -/
def execute (settings : Settings) : Command → m (List Event × Outcome)
  | .list json => return ([], list .standard json)
  | .display name => return ([], display .standard name)
  | .generate out => do
    let emission ← Suite.standard.store (out.getD settings.outputDir)
    return (emission.events, ofEmission emission)
  | .check dir => do
    let dir := dir.getD settings.outputDir
    let inspection ← Suite.standard.inspect dir
    return (inspection.events, ofInspection dir inspection)

/-- Carries out an invocation. -/
def perform [Toml.Wording] (invocation : Invocation) : m Outcome := do
  match ← settingsFor invocation with
  | .error error => return .failed error
  | .ok settings =>
    let (level, warning) := verbosity (invocation.logLevel.getD settings.logLevel)
    let (events, outcome) ← execute settings invocation.command
    return { outcome with warning, log := logLines level events }

/-- A run of the program with the given arguments. -/
def run [Toml.Wording] (arguments : List String) : m Outcome :=
  match read arguments with
  | .ok invocation => perform invocation
  | .error (.shown text) => return { code := 0, stdout := text, messages := "" }
  | .error (.mistaken mistake) =>
    return { code := 2, stdout := "", messages := mistake.message ++ "\n" }

end Conformance.CommandLine
