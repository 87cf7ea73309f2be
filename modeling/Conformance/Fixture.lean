import Conformance.Path
import Conformance.Suite

/-!
# Fixtures

The files by which a suite is kept on a disk, two for each scenario.

* **Files** (`Scenario.files`): in a directory, `NAME.in` holds the stored source and `NAME.out` the
  stored answer.
* **Order** (`Suite.files`): the files of a suite come scenario by scenario, each source before its
  answer.
-/

namespace Conformance

/-- The extension of source files. -/
def sourceExtension : String := "in"

/-- The extension of answer files. -/
def answerExtension : String := "out"

/-- The path of a scenario's source file. -/
def sourcePath (dir : Path) (name : String) : Path :=
  dir.join ⟨name ++ "." ++ sourceExtension⟩

/-- The path of a scenario's answer file. -/
def answerPath (dir : Path) (name : String) : Path :=
  dir.join ⟨name ++ "." ++ answerExtension⟩

/-- A path with the text that its file is to hold. -/
structure StoredFile where
  /-- Where the file lies. -/
  path : Path
  /-- What it holds. -/
  text : String
  deriving DecidableEq

/-- The two files of a scenario, the source first. -/
def Scenario.files (dir : Path) (scenario : Scenario) : List StoredFile :=
  [⟨sourcePath dir scenario.name, scenario.sourceText⟩,
    ⟨answerPath dir scenario.name, scenario.answerText⟩]

/-- The files of a suite in order. -/
def Suite.files (dir : Path) (suite : Suite) : List StoredFile :=
  suite.scenarios.flatMap (Scenario.files dir)

end Conformance
