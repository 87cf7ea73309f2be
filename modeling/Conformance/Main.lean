import Conformance.CommandLine.Run

/-!
# The program

Runs a command line on the disk of the system: prints what the run says and ends with its status.
-/

namespace Conformance

/-- The number of a failure of the system, where it has one. -/
def systemCode? : IO.Error → Option UInt32
  | .alreadyExists _ code _ => some code
  | .otherError code _ => some code
  | .resourceBusy code _ => some code
  | .resourceVanished code _ => some code
  | .unsupportedOperation code _ => some code
  | .hardwareFault code _ => some code
  | .unsatisfiedConstraints code _ => some code
  | .illegalOperation code _ => some code
  | .protocolError code _ => some code
  | .timeExpired code _ => some code
  | .interrupted _ code _ => some code
  | .noFileOrDirectory _ code _ => some code
  | .invalidArgument _ code _ => some code
  | .permissionDenied _ code _ => some code
  | .resourceExhausted _ code _ => some code
  | .inappropriateType _ code _ => some code
  | .noSuchThing _ code _ => some code
  | .unexpectedEof => none
  | .userError _ => none

/-- A failure of the system as a cause. Its number may come as the negative in 32 bits. -/
def IoError.ofSystem (error : IO.Error) : IoError :=
  match systemCode? error with
  | some code => .system code.toInt32.toInt.natAbs
  | none => .described (toString error)

/-- Carries out an operation at a path, if a file can have that path. -/
def attempt {α : Type} (path : Path) (operation : IO α) : IO (Except IoError α) := do
  match path.fault? with
  | some cause => return .error cause
  | none =>
    try return .ok (← operation)
    catch error => return .error (.ofSystem error)

/-- The kind of what is at a path, if anything is. -/
def kindAt? (path : Path) : IO (Option IO.FS.FileType) := do
  let kind ← attempt path do
    let real ← IO.FS.realPath path.text
    return (← real.metadata).type
  return kind.toOption

/-- The disk of the system. -/
instance instStorageSystem : Storage IO where
  isFile path := return (← kindAt? path) == some .file
  isDirectory path := return (← kindAt? path) == some .dir
  readText path := do
    match ← attempt path (IO.FS.readBinFile path.text) with
    | .error cause => return .error cause
    | .ok content =>
      match String.fromUTF8? content with
      | some text => return .ok text
      | none => return .error .invalidUtf8
  writeText path text := attempt path (IO.FS.writeFile path.text text)
  createDirectory path := attempt path (IO.FS.createDir path.text)

end Conformance

/-- The program: runs its arguments and returns the status. -/
def main (arguments : List String) : IO UInt32 := do
  let outcome ← Conformance.CommandLine.run (m := IO) arguments
  (← IO.getStdout).putStr outcome.stdout
  (← IO.getStderr).putStr outcome.stderr
  return outcome.code.toUInt32
