import Conformance.Storage
import Std.Data.ExtTreeMap

/-!
# A disk as a value

A tree of directories and regular files, without links, and the way paths lead through it.

* **The tree** (`Disk`): an entry for each location that exists. The root and the working directory
  are directories, and so is what any entry lies in.
* **Walking** (`Disk.walk`): a path is followed name by name; every name is looked up in a
  directory, an empty name and a dot stay where they are, and two dots lead outwards.
* **Operations** (`readText`, `writeText`, `createDirectory`): they fail with the cause that a
  system of this kind gives, and of two causes with the one met first.
* **Computations** (`instStorageDisk`): a computation with a disk as its state has access to files.
-/

namespace Conformance

/-- A place in the tree: the names that lead to it from the root, the last one first. -/
abbrev Location := List String

/-- What is at a location. -/
inductive Entry where
  /-- A directory. -/
  | directory
  /-- A regular file with its bytes. -/
  | file (content : ByteArray)

/-- Entries are compared as kinds, files also by their bytes. -/
instance instDecidableEqEntry : DecidableEq Entry
  | .directory, .directory => .isTrue rfl
  | .directory, .file _ => .isFalse nofun
  | .file _, .directory => .isFalse nofun
  | .file first, .file second =>
    match ByteArray.decEq first second with
    | .isTrue same => .isTrue (congrArg Entry.file same)
    | .isFalse differ => .isFalse fun same => differ (Entry.file.inj same)

/-- A tree of directories and files with a working directory. -/
structure Disk where
  /-- What is at each location that exists. -/
  entries : Std.ExtTreeMap Location Entry
  /-- The directory that relative paths start from. -/
  current : Location
  /-- The root is a directory. -/
  root_directory : entries[([] : Location)]? = some .directory
  /-- What lies in something lies in a directory. -/
  parent_directory : ∀ (name : String) (parent : Location),
    entries[name :: parent]? ≠ none → entries[parent]? = some .directory
  /-- The working directory is a directory. -/
  current_directory : entries[current]? = some .directory

namespace Disk

/-! ## Looking at the tree -/

/-- What is at a location, if anything is. -/
def entryAt? (disk : Disk) (location : Location) : Option Entry :=
  disk.entries[location]?

/-- The disk with an entry put into a directory, where no directory has its name. -/
def put (disk : Disk) (parent : Location) (name : String) (entry : Entry)
    (parent_directory : disk.entryAt? parent = some .directory)
    (not_directory : disk.entryAt? (name :: parent) ≠ some .directory) : Disk where
  entries := disk.entries.insert (name :: parent) entry
  current := disk.current
  root_directory := by
    simpa [Std.ExtTreeMap.getElem?_insert] using disk.root_directory
  parent_directory := by
    intro inner outer present
    have outer_directory : disk.entries[outer]? = some .directory := by
      rw [Std.ExtTreeMap.getElem?_insert] at present
      split at present
      · next same =>
        obtain ⟨_, rfl⟩ := List.cons.inj (Std.LawfulEqOrd.eq_of_compare same)
        exact parent_directory
      · exact disk.parent_directory inner outer present
    rw [Std.ExtTreeMap.getElem?_insert]
    split
    · next same =>
      rw [← Std.LawfulEqOrd.eq_of_compare same] at outer_directory
      exact absurd outer_directory not_directory
    · exact outer_directory
  current_directory := by
    rw [Std.ExtTreeMap.getElem?_insert]
    split
    · next same =>
      have current_directory := disk.current_directory
      rw [← Std.LawfulEqOrd.eq_of_compare same] at current_directory
      exact absurd current_directory not_directory
    · exact disk.current_directory

/-- What is at a location after an entry is put into a directory. -/
theorem entryAt?_put (disk : Disk) (parent : Location) (name : String) (entry : Entry)
    (parent_directory : disk.entryAt? parent = some .directory)
    (not_directory : disk.entryAt? (name :: parent) ≠ some .directory) (location : Location) :
    (disk.put parent name entry parent_directory not_directory).entryAt? location =
      if location = name :: parent then some entry else disk.entryAt? location := by
  simp only [entryAt?, put, Std.ExtTreeMap.getElem?_insert, Std.LawfulEqOrd.compare_eq_iff_eq,
    @eq_comm _ location]

/-- The disk without the entry at a location, where no directory is. -/
def erase (disk : Disk) (location : Location)
    (not_directory : disk.entryAt? location ≠ some .directory) : Disk where
  entries := disk.entries.erase location
  current := disk.current
  root_directory := by
    rw [Std.ExtTreeMap.getElem?_erase]
    split
    · next same =>
      rw [Std.LawfulEqOrd.eq_of_compare same] at not_directory
      exact absurd disk.root_directory not_directory
    · exact disk.root_directory
  parent_directory := by
    intro inner outer present
    rw [Std.ExtTreeMap.getElem?_erase] at present ⊢
    split at present
    · exact absurd rfl present
    · have outer_directory := disk.parent_directory inner outer present
      split
      · next same =>
        rw [Std.LawfulEqOrd.eq_of_compare same] at not_directory
        exact absurd outer_directory not_directory
      · exact outer_directory
  current_directory := by
    rw [Std.ExtTreeMap.getElem?_erase]
    split
    · next same =>
      rw [Std.LawfulEqOrd.eq_of_compare same] at not_directory
      exact absurd disk.current_directory not_directory
    · exact disk.current_directory

/-- The disk with nothing but a working directory in its root. -/
def bare : Disk where
  entries := (({} : Std.ExtTreeMap Location Entry).insert [] .directory).insert ["work"] .directory
  current := ["work"]
  root_directory := by decide +kernel
  parent_directory := by
    intro name parent
    simp only [Std.ExtTreeMap.getElem?_insert, Std.LawfulEqOrd.compare_eq_iff_eq]
    cases parent with
    | nil => simp
    | cons outer rest => simp
  current_directory := by decide +kernel

/-! ## Following paths -/

/-- The most bytes that a name may have. -/
def nameLimit : Nat := 255

/-- The location that a name leads to from another one. -/
def follow (disk : Disk) (here : Location) (name : String) : Except IoError Location :=
  if disk.entryAt? here ≠ some .directory then .error .notDirectory
  else if name = "" ∨ name = "." then .ok here
  else if name = ".." then .ok here.tail
  else if nameLimit < name.utf8ByteSize then .error .nameTooLong
  else if (disk.entryAt? (name :: here)).isNone then .error .notFound
  else .ok (name :: here)

/-- The location that names lead to, one after the other. -/
def walk (disk : Disk) : Location → List String → Except IoError Location
  | here, [] => .ok here
  | here, name :: names =>
    match disk.follow here name with
    | .ok next => disk.walk next names
    | .error cause => .error cause

/-- The location that a path starts from. -/
def start (disk : Disk) (path : Path) : Location :=
  if path.isAbsolute then [] else disk.current

/-- The location of what a path names. -/
def resolve (disk : Disk) (path : Path) : Except IoError Location :=
  match path.fault? with
  | some cause => .error cause
  | none => disk.walk (disk.start path) path.pieces

/-- What a path names when something is to be created at it. -/
inductive Target where
  /-- A directory that exists: the root, or one that dots lead to. -/
  | existing
  /-- A name in a directory; `marked` if a slash stands after it. -/
  | within (parent : Location) (name : String) (marked : Bool)

/-- What a path names when something is to be created at it. -/
def target (disk : Disk) (path : Path) : Except IoError Target :=
  match path.fault? with
  | some cause => .error cause
  | none =>
    let names := path.pieces.reverse.dropWhile (· = "")
    match names with
    | [] => .ok .existing
    | name :: outer =>
      match disk.walk (disk.start path) outer.reverse with
      | .error cause => .error cause
      | .ok parent =>
        if disk.entryAt? parent ≠ some .directory then .error .notDirectory
        else if name = "." ∨ name = ".." then .ok .existing
        else .ok (.within parent name (path.pieces.getLast? = some ""))

/-! ## Operations -/

/-- What a path names, if it leads to anything. -/
def lookup? (disk : Disk) (path : Path) : Option Entry :=
  match disk.resolve path with
  | .ok location => disk.entryAt? location
  | .error _ => none

/-- Whether a regular file is at a path. -/
def isFile (disk : Disk) (path : Path) : Bool :=
  match disk.lookup? path with
  | some (.file _) => true
  | _ => false

/-- Whether a directory is at a path. -/
def isDirectory (disk : Disk) (path : Path) : Bool :=
  disk.lookup? path = some .directory

/-- The bytes of the file at a path. -/
def readBytes (disk : Disk) (path : Path) : Except IoError ByteArray :=
  match disk.resolve path with
  | .error cause => .error cause
  | .ok location =>
    match disk.entryAt? location with
    | some (.file content) => .ok content
    | some .directory => .error .isDirectory
    | none => .error .notFound

/-- The content of the file at a path, as text. -/
def readText (disk : Disk) (path : Path) : Except IoError String :=
  match disk.readBytes path with
  | .error cause => .error cause
  | .ok content =>
    match String.fromUTF8? content with
    | some text => .ok text
    | none => .error .invalidUtf8

/-- The disk with these bytes as the whole content of the file at a path. -/
def writeBytes (disk : Disk) (path : Path) (content : ByteArray) : Except IoError Disk :=
  match disk.target path with
  | .error cause => .error cause
  | .ok .existing => .error .isDirectory
  | .ok (.within parent name marked) =>
    if marked then .error .isDirectory
    else if nameLimit < name.utf8ByteSize then .error .nameTooLong
    else if isParent : disk.entryAt? parent = some .directory then
      if isDirectory : disk.entryAt? (name :: parent) = some .directory then .error .isDirectory
      else .ok (disk.put parent name (.file content) isParent isDirectory)
    else .error .notDirectory

/-- The disk with this text as the whole content of the file at a path. -/
def writeText (disk : Disk) (path : Path) (text : String) : Except IoError Disk :=
  disk.writeBytes path text.toUTF8

/-- The disk with a new directory at a path. -/
def createDirectory (disk : Disk) (path : Path) : Except IoError Disk :=
  match disk.target path with
  | .error cause => .error cause
  | .ok .existing => .error .alreadyExists
  | .ok (.within parent name _) =>
    if nameLimit < name.utf8ByteSize then .error .nameTooLong
    else if isParent : disk.entryAt? parent = some .directory then
      if isNew : disk.entryAt? (name :: parent) = none then
        .ok (disk.put parent name .directory isParent (by simp [isNew]))
      else .error .alreadyExists
    else .error .notDirectory

/-- The disk without the file at a path. -/
def remove (disk : Disk) (path : Path) : Except IoError Disk :=
  match disk.resolve path with
  | .error cause => .error cause
  | .ok location =>
    if isDirectory : disk.entryAt? location = some .directory then .error .isDirectory
    else .ok (disk.erase location isDirectory)

/-- The paths of everything below the working directory, each directory with a slash after it, in
the order of their characters. -/
def listing (disk : Disk) : List String :=
  let paths := disk.entries.toList.filterMap fun (location, entry) =>
    let inner := location.take (location.length - disk.current.length)
    if inner ≠ [] ∧ inner ++ disk.current = location then
      some ("/".intercalate inner.reverse ++ if entry = .directory then "/" else "")
    else none
  paths.mergeSort (· ≤ ·)

/-! ## Computations on a disk -/

/-- A change of the disk as a computation: a disk whose change fails stays as it is. -/
def change (attempt : Disk → Except IoError Disk) : StateM Disk (Except IoError Unit) := fun disk =>
  match attempt disk with
  | .ok changed => (.ok (), changed)
  | .error cause => (.error cause, disk)

/-- A computation with a disk as its state has access to the files of that disk. -/
instance instStorageDisk : Storage (StateM Disk) where
  isFile path := fun disk => (disk.isFile path, disk)
  isDirectory path := fun disk => (disk.isDirectory path, disk)
  readText path := fun disk => (disk.readText path, disk)
  writeText path text := change (·.writeText path text)
  createDirectory path := change (·.createDirectory path)

end Disk

end Conformance
