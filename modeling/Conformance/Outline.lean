import Conformance.Scope

/-!
# Outlines of whole programs

What the analyser must report of a program that it accepts: the signature of every function the
program names, and the scope of every function body.

* **Signatures** come in order of first declaration, one a name: the first declaration of a name
  is kept, whatever later ones say (`Outline.declare`).
* **Scopes** come in order of definition, one for each definition (`Outline.define`).
* **A program** is the sequence of its declarations and definitions (`Item`), and `Outline.ofItems`
  is the outline it leaves.
-/

namespace Conformance

/-- A function's name with the types that it takes and the type that it returns. -/
structure Signature where
  /-- The function's name. -/
  name : String
  /-- The types of its parameters in order. -/
  params : List ValueType
  /-- The type of its result. -/
  result : ValueType
  deriving DecidableEq

/-- The line that reports a signature, such as `foo (int,bool) -> void`. -/
def Signature.display (signature : Signature) : String :=
  signature.name ++ " (" ++ ValueType.joinKeywords signature.params ++ ") -> " ++
    signature.result.keyword

/-- The signatures and scopes of a program. The library functions that every program sees are not
part of it. -/
structure Outline where
  /-- The declared functions, in order of first declaration. -/
  signatures : List Signature
  /-- The scopes of the defined functions, in order of definition. -/
  scopes : List Scope
  deriving DecidableEq

namespace Outline

/-- The outline of the program that declares nothing. -/
def empty : Outline := ⟨[], []⟩

/-- Whether some function of this name is declared. -/
def declares (outline : Outline) (name : String) : Bool :=
  outline.signatures.any (·.name == name)

/-- The outline after a declaration: a name that is already declared keeps its signature. -/
def declare (outline : Outline) (signature : Signature) : Outline :=
  if outline.declares signature.name then outline
  else { outline with signatures := outline.signatures ++ [signature] }

/-- The outline after a definition, which declares the function and adds the scope of its body. -/
def define (outline : Outline) (name : String) (params : List Declaration) (result : ValueType)
    (body : Body) : Outline :=
  let declared := outline.declare ⟨name, params.map (·.type), result⟩
  { declared with scopes := declared.scopes ++ [functionScope params body] }

/-! ## Programs -/

/-- A top-level item of a program. -/
inductive Item where
  /-- A function declared without a body. -/
  | declaration (signature : Signature)
  /-- A function with its body. -/
  | definition (name : String) (params : List Declaration) (result : ValueType) (body : Body)

/-- The outline after one more item. -/
def extend (outline : Outline) : Item → Outline
  | .declaration signature => outline.declare signature
  | .definition name params result body => outline.define name params result body

/-- The outline of a program, given by its items in order. -/
def ofItems (items : List Item) : Outline :=
  items.foldl extend empty

end Outline

end Conformance
