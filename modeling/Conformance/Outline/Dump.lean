import Conformance.Outline

/-!
# The printed form of an outline

The text that the analyser prints for a program it accepts.

* **Frame** (`Outline.dumpLines`): a line that opens the global scope, the signatures, library
  functions first, the scopes, and a line that closes the global scope, with no newline after it.
* **Depth** (`Scope.dumpLines`): the scope of a function stands one level in and a nested scope one
  level deeper than the scope around it; a level is two spaces, and a scope's markers stand at the
  level of its bindings.
-/

namespace Conformance

/-- The line that opens the global scope. -/
def globalOpen : String := "---begin global scope---"

/-- The line that closes the global scope. -/
def globalClose : String := "---end global scope---"

/-- The line that opens a scope. -/
def scopeOpen : String := "---begin scope---"

/-- The line that closes a scope. -/
def scopeClose : String := "---end scope---"

/-- The library functions that every program sees before its own. -/
def librarySignatures : List Signature :=
  [⟨"print", [.string], .void⟩, ⟨"printi", [.int], .void⟩]

/-- A text at a depth: two spaces for each level before it. -/
def indented (depth : Nat) (text : String) : String :=
  String.ofList (List.replicate (2 * depth) ' ') ++ text

namespace Scope

/-- The lines of a scope's items, its bindings at `depth`. -/
def dumpItems (depth : Nat) : Scope → List String
  | empty => []
  | binding first rest => indented depth first.display :: rest.dumpItems depth
  | nested inner rest =>
    indented (depth + 1) scopeOpen ::
      (inner.dumpItems (depth + 1) ++ indented (depth + 1) scopeClose :: rest.dumpItems depth)

/-- The lines of a scope with its markers, all at `depth` but for the scopes within it. -/
def dumpLines (depth : Nat) (scope : Scope) : List String :=
  indented depth scopeOpen :: (scope.dumpItems depth ++ [indented depth scopeClose])

end Scope

namespace Outline

/-- The lines of an outline in order. -/
def dumpLines (outline : Outline) : List String :=
  globalOpen ::
    ((librarySignatures ++ outline.signatures).map Signature.display ++
      (outline.scopes.flatMap (Scope.dumpLines 1) ++ [globalClose]))

/-- The printed form of an outline; its last line has no newline. -/
def dump (outline : Outline) : String :=
  "\n".intercalate outline.dumpLines

end Outline

end Conformance
