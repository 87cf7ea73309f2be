import Conformance.Diagnostic
import Conformance.Json.Fault
import Conformance.Settings

/-!
# Errors

Everything that can stop the program, each cause with its text.

* **Causes** (`Error`): a scenario's name that is taken or unknown, a failure of the disk at a path,
  settings that cannot be used, a diagnostic that cannot be, a listing that cannot be written.
* **Report** (`Error.report`): what is said when a run ends with an error; for settings, their file
  is named on a line of its own.
-/

namespace Conformance

/-- What stops the program. -/
inductive Error where
  /-- A scenario has the name of an earlier one. -/
  | nameTaken (name : String)
  /-- No scenario has this name. -/
  | nameUnknown (name : String)
  /-- The disk fails at a path. -/
  | disk (path : Path) (cause : IoError)
  /-- The settings in a file cannot be used. -/
  | settings (fault : Settings.Fault) (path : Path)
  /-- A diagnostic cannot be. -/
  | diagnostic (rejection : Diagnostic.Rejection)
  /-- A listing cannot be written. -/
  | listing (fault : Json.Fault)
  deriving DecidableEq

namespace Error

/-- The text of an error. -/
def message : Error → String
  | nameTaken name => "duplicate test name '" ++ name ++ "'"
  | nameUnknown name => "no test named '" ++ name ++ "'"
  | disk path cause => "I/O error on " ++ path.text ++ ": " ++ cause.message
  | settings fault _ => "config error: " ++ fault.message
  | diagnostic rejection => "invalid diagnostic: " ++ rejection.message
  | listing fault => "failed to serialize catalogue: " ++ fault.message

/-- What is said of an error that ends a run, without a newline at the end. -/
def report (error : Error) : String :=
  match error with
  | settings _ path => "error: " ++ error.message ++ "\n  --> " ++ path.text
  | _ => "error: " ++ error.message

end Error

end Conformance
