/-!
# Paths

Paths as text: names with slashes between them.

* **Joining** (`Path.join`): an absolute right side replaces the left, an empty left side yields
  the right, and otherwise one slash stands between the two.
* **Components** (`Path.components`): repeated and trailing slashes count for nothing, nor does a
  dot, except one that begins a relative path. Two paths with the same components are the same
  place to a reader (`Path.sameComponents`), though their texts may differ.
* **Ancestors** (`Path.ancestors`): the path itself and the path of each shorter run of components,
  longest first; they are what has to exist for the path to exist.
-/

namespace Conformance

/-- A path, kept as it was given. -/
structure Path where
  /-- The path as text, which is also how it is shown. -/
  text : String
  deriving DecidableEq

namespace Path

/-- Whether a path starts from the root. -/
def isAbsolute (path : Path) : Bool :=
  path.text.toList.head? = some '/'

/-- The path of `name` as seen from `base`. -/
def join (base name : Path) : Path :=
  if name.isAbsolute then name
  else if base.text.isEmpty || base.text.toList.getLast? = some '/' then ⟨base.text ++ name.text⟩
  else ⟨base.text ++ "/" ++ name.text⟩

/-- The names of a path between its slashes, empty ones and dots included. -/
def pieces (path : Path) : List String :=
  (path.text.toList.splitOn '/').map String.ofList

/-- A component of a path. -/
inductive Component where
  /-- The root, at the start of an absolute path. -/
  | root
  /-- A dot at the start of a relative path. -/
  | here
  /-- Two dots. -/
  | up
  /-- Any other name. -/
  | name (text : String)
  deriving DecidableEq

/-- The component that a piece stands for, if it counts. -/
def Component.ofPiece? : String → Option Component
  | "" => none
  | "." => none
  | ".." => some up
  | text => some (name text)

/-- The components of a path in order. -/
def components (path : Path) : List Component :=
  let counted := path.pieces.filterMap Component.ofPiece?
  if path.isAbsolute then .root :: counted
  else if path.pieces.head? = some "." then .here :: counted
  else counted

/-- Whether two paths have the same components. -/
def sameComponents (first second : Path) : Bool :=
  first.components = second.components

/-- The text of a component other than the root. -/
def Component.text : Component → String
  | root => ""
  | here => "."
  | up => ".."
  | name text => text

/-- A path with the given components. -/
def ofComponents : List Component → Path
  | [] => ⟨""⟩
  | [.root] => ⟨"/"⟩
  | components => ⟨"/".intercalate (components.map Component.text)⟩

/-- A path and the paths of the directories it leads through, from the innermost outwards; the
empty path leads through none. -/
def ancestors (path : Path) : List Path :=
  match path.components with
  | [] => []
  | components =>
    path :: (List.range (components.length - 1)).reverse.map fun n =>
      ofComponents (components.take (n + 1))

example : (ancestors ⟨"a//b/./c"⟩).map (·.text) = ["a//b/./c", "a/b", "a"] := by decide +kernel
example : (ancestors ⟨"./../x"⟩).map (·.text) = ["./../x", "./..", "."] := by decide +kernel
example : (ancestors ⟨"/a/b"⟩).map (·.text) = ["/a/b", "/a", "/"] := by decide +kernel

end Path

end Conformance
