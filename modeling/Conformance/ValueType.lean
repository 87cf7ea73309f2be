/-!
# Value types

The types a value of the analysed language can have, what converts to what, and which literals a
type can hold.

* **Literals** (`literalBounds?`, `canHold`): only `int` and `byte` have range-checked
  literals, the signed 32-bit and the unsigned 8-bit integers.
* **Conversion** (`convertsTo`): every type but `void` converts to itself, `byte` widens to `int`,
  and `int` narrows to `byte` only where the program writes the cast out.
* **Argument binding** (`argumentsFit`): a call binds when there are as many arguments as
  parameters and each argument converts implicitly to its parameter.
-/

namespace Conformance

/-- The type of a value; `void` is the type of a call that yields none. -/
inductive ValueType where
  | int
  | byte
  | bool
  | string
  | void
  deriving DecidableEq, Inhabited

/-- Whether the program writes a conversion out, `(byte)x`, or leaves it to an initialisation, an
assignment, an argument or a return. -/
inductive Cast where
  | implicit
  | explicit
  deriving DecidableEq

namespace ValueType

/-! ## Keywords -/

/-- The keyword of a type. -/
def keyword : ValueType → String
  | int => "int"
  | byte => "byte"
  | bool => "bool"
  | string => "string"
  | void => "void"

/-- The type that a keyword names. -/
def ofKeyword? : String → Option ValueType
  | "int" => some int
  | "byte" => some byte
  | "bool" => some bool
  | "string" => some string
  | "void" => some void
  | _ => none

/-- Reading a type's keyword gives the type back. -/
@[simp] theorem ofKeyword?_keyword (type : ValueType) : ofKeyword? type.keyword = some type := by
  cases type <;> rfl

/-- The keywords of types in order, with a comma and no space between them. -/
def joinKeywords (types : List ValueType) : String :=
  ",".intercalate (types.map keyword)

/-! ## Literals -/

/-- The least and the greatest literal of a type whose literals are range-checked. -/
def literalBounds? : ValueType → Option (Int × Int)
  | int => some (-2147483648, 2147483647)
  | byte => some (0, 255)
  | _ => none

/-- Whether the type can hold a literal: its range contains the value. -/
def canHold (type : ValueType) (value : Int) : Bool :=
  match type.literalBounds? with
  | some (least, greatest) => least ≤ value && value ≤ greatest
  | none => false

/-! ## Conversion -/

/-- Whether a value of type `source` may be stored where a `target` is expected. -/
def convertsTo (source target : ValueType) (cast : Cast) : Bool :=
  if source = target then source != void
  else
    match source, target with
    | byte, int => true
    | int, byte => cast = .explicit
    | _, _ => false

/-- Whether a call with arguments of these types fits parameters of those: one argument a
parameter, each of them converting implicitly. -/
def argumentsFit : (params args : List ValueType) → Bool
  | [], [] => true
  | param :: params, arg :: args => arg.convertsTo param .implicit && argumentsFit params args
  | _, _ => false

end ValueType

end Conformance
