import Conformance.Fixture
import Conformance.Storage

/-!
# Writing fixtures

How a suite is written to a directory.

* **Order** (`Suite.store`): the directory is created if need be, then the files are written in the
  order of the suite.
* **Failure** (`Emission.failure`): the first one ends it, and what was written stays.
* **Summary** (`Emission.summary`): the numbers of scenarios and files of a complete emission.
-/

namespace Conformance

variable {m : Type → Type} [Monad m] [Storage m]

/-- Writes files in order up to the first failure, which it returns. -/
def storeFiles : List StoredFile → m (Option Error)
  | [] => return none
  | file :: files => do
    match ← Storage.writeText file.path file.text with
    | .error cause => return some (.disk file.path cause)
    | .ok () => storeFiles files

/-- Writes the files of one scenario to a directory, which has to be there, and returns their
number. -/
def Scenario.store (scenario : Scenario) (dir : Path) : m (Except Error Nat) := do
  match ← storeFiles (scenario.files dir) with
  | some error => return .error error
  | none => return .ok (scenario.files dir).length

/-- What an emission did. -/
structure Emission where
  /-- The directory. -/
  dir : Path
  /-- The scenarios whose two files were written, in order. -/
  written : List Scenario
  /-- What ended it early, if anything did. -/
  failure : Option Error

/-- What is said of a complete emission. -/
structure EmissionSummary where
  /-- The directory. -/
  dir : Path
  /-- The number of scenarios. -/
  scenarios : Nat
  /-- The number of files. -/
  files : Nat
  deriving DecidableEq

/-- The message for a complete emission. -/
def EmissionSummary.message (summary : EmissionSummary) : String :=
  "Done! Generated " ++ toString summary.scenarios ++ " tests in directory '" ++
    summary.dir.text ++ "'."

/-- The error that ended an emission, or the summary of a complete one. -/
def Emission.summary (emission : Emission) : Except Error EmissionSummary :=
  match emission.failure with
  | some error => .error error
  | none =>
    .ok
      { dir := emission.dir
        scenarios := emission.written.length
        files := (emission.written.flatMap (Scenario.files emission.dir)).length }

/-- Writes scenarios in order up to the first failure, and returns the ones before it with it. -/
def storeScenarios (dir : Path) : List Scenario → m (List Scenario × Option Error)
  | [] => return ([], none)
  | scenario :: scenarios => do
    match ← scenario.store dir with
    | .error error => return ([], some error)
    | .ok _ =>
      let (written, failure) ← storeScenarios dir scenarios
      return (scenario :: written, failure)

/-- Writes a suite to a directory, which is created if need be. -/
def Suite.store (suite : Suite) (dir : Path) : m Emission := do
  match ← createDirectories dir with
  | .error cause => return ⟨dir, [], some (.disk dir cause)⟩
  | .ok () =>
    let (written, failure) ← storeScenarios dir suite.scenarios
    return ⟨dir, written, failure⟩

end Conformance
