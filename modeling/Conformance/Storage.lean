import Conformance.IoError
import Conformance.Path

/-!
# What a program asks of the disk

The operations by which fixtures are written and compared. Everything that touches files is written
over them, so that it runs alike on a real disk and on a disk that is a value.

* **Operations** (`Storage`): looking at a path, reading and writing a file, creating a directory.
* **Paths that no file can have** (`Path.fault?`) are refused before the disk is looked at.
* **Nested directories** (`createDirectories`): a directory is created with those it leads through.
-/

namespace Conformance

/-- The most bytes that a path may have. -/
def Path.limit : Nat := 4095

/-- Why no file can have a path, whatever is on the disk, if there is a reason. -/
def Path.fault? (path : Path) : Option IoError :=
  if path.text.toList.contains '\x00' then some .nulInPath
  else if path.text = "" then some .notFound
  else if Path.limit < path.text.utf8ByteSize then some .nameTooLong
  else none

/-- Access to files from computations in `m`. -/
class Storage (m : Type → Type) where
  /-- Whether a regular file is at the path. -/
  isFile : Path → m Bool
  /-- Whether a directory is at the path. -/
  isDirectory : Path → m Bool
  /-- The whole content of the file at the path, as text. -/
  readText : Path → m (Except IoError String)
  /-- Makes the text the whole content of the file at the path, which is created if need be. -/
  writeText : Path → String → m (Except IoError Unit)
  /-- Creates a directory at the path, where nothing is, in a directory that exists. -/
  createDirectory : Path → m (Except IoError Unit)

variable {m : Type → Type} [Monad m] [Storage m]

/-! ## Nested directories -/

/-- What a failure to create a directory comes to: it counts for nothing where a directory is. -/
def excuse (path : Path) (cause : IoError) : m (Except IoError Unit) := do
  return if ← Storage.isDirectory path then .ok () else .error cause

/-- Creates the first of some directories, each lying in the next. If it cannot be created because
something is missing, the others are created and it is tried again. What was created before a
failure stays. -/
def createOutward : List Path → m (Except IoError Unit)
  | [] => return .ok ()
  | path :: outer => do
    match ← Storage.createDirectory path with
    | .ok () => return .ok ()
    | .error cause =>
      if cause = .notFound then
        match ← createOutward outer with
        | .error cause => return .error cause
        | .ok () =>
          match ← Storage.createDirectory path with
          | .ok () => return .ok ()
          | .error cause => excuse path cause
      else excuse path cause

/-- Creates the directory at a path and those it leads through, where they are missing. Nothing is
to be done for the empty path. -/
def createDirectories (path : Path) : m (Except IoError Unit) :=
  createOutward path.ancestors

end Conformance
