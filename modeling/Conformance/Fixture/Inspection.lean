import Conformance.Fixture
import Conformance.Storage

/-!
# Comparing fixtures with a suite

How a directory is compared with the suite that it should hold.

* **Order** (`Suite.inspect`): the files are read in the order of the suite. Nothing is changed, and
  files that belong to no scenario are left aside.
* **Deviations** (`Deviation`): a file that is missing or holds another text.
* **Failure** (`Inspection.failure`): a file that cannot be read for any other reason ends the
  comparison.
-/

namespace Conformance

/-- How a file is out of date. -/
inductive Deviation where
  /-- It is not there. -/
  | missing (path : Path)
  /-- It holds another text. -/
  | differs (path : Path)
  deriving DecidableEq

/-- The text that reports a deviation. -/
def Deviation.display : Deviation → String
  | missing path => "missing: " ++ path.text
  | differs path => "differs: " ++ path.text

/-- What a comparison found. -/
structure Inspection where
  /-- The deviations in order, up to the failure if there is one. -/
  deviations : List Deviation
  /-- What ended it early, if anything did. -/
  failure : Option Error

namespace Inspection

/-- The error that ended a comparison, or the deviations that a complete one found. -/
def result (inspection : Inspection) : Except Error (List Deviation) :=
  match inspection.failure with
  | some error => .error error
  | none => .ok inspection.deviations

/-- A comparison with one more deviation before what it found. -/
def after (inspection : Inspection) (deviation : Deviation) : Inspection :=
  { inspection with deviations := deviation :: inspection.deviations }

end Inspection

variable {m : Type → Type} [Monad m] [Storage m]

/-- Compares files in order with what is on the disk, up to the first failure. -/
def inspectFiles : List StoredFile → m Inspection
  | [] => return ⟨[], none⟩
  | file :: files => do
    match ← Storage.readText file.path with
    | .ok text =>
      let rest ← inspectFiles files
      return if text = file.text then rest else rest.after (.differs file.path)
    | .error cause =>
      if cause = .notFound then
        let rest ← inspectFiles files
        return rest.after (.missing file.path)
      else return ⟨[], some (.disk file.path cause)⟩

/-- Compares a directory with a suite. -/
def Suite.inspect (suite : Suite) (dir : Path) : m Inspection :=
  inspectFiles (suite.files dir)

end Conformance
