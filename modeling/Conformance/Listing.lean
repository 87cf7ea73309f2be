import Conformance.Json
import Conformance.Suite

/-!
# JSON listings

The JSON values of a suite and of everything in it.

* **Scenarios** have a name, a source as it was written, the kind of their answer, and the answer.
* **Outlines** have their signatures and scopes; an item of a scope is an object with one field,
  named for its kind.
* **Diagnostics** have a line, which is null where there is none, a kind, and the fields of their
  kind.
-/

namespace Conformance

/-- A type by its keyword. -/
def ValueType.toJson (type : ValueType) : Json :=
  .text type.keyword

/-- Types in order. -/
def ValueType.listToJson (types : List ValueType) : Json :=
  .array (types.map ValueType.toJson)

/-- The fields of a binding. -/
def Binding.toJson (binding : Binding) : Json :=
  .object
    [("name", .text binding.name), ("ty", binding.type.toJson),
      ("slot", .number binding.slot.toInt)]

namespace Scope

mutual

/-- A scope with its items. -/
def toJson (scope : Scope) : Json :=
  .object [("items", .array scope.itemsToJson)]

/-- The items of a scope in order. -/
def itemsToJson : Scope → List Json
  | empty => []
  | binding first rest => .object [("Binding", first.toJson)] :: rest.itemsToJson
  | nested inner rest => .object [("Nested", inner.toJson)] :: rest.itemsToJson

end

end Scope

/-- The fields of a signature. -/
def Signature.toJson (signature : Signature) : Json :=
  .object
    [("name", .text signature.name), ("params", ValueType.listToJson signature.params),
      ("ret", signature.result.toJson)]

/-- The signatures and scopes of an outline. -/
def Outline.toJson (outline : Outline) : Json :=
  .object
    [("signatures", .array (outline.signatures.map Signature.toJson)),
      ("bodies", .array (outline.scopes.map Scope.toJson))]

/-- The name of a violation's kind. -/
def Violation.kindName : Violation → String
  | undefinedVariable _ => "undefined_variable"
  | undefinedFunction _ => "undefined_function"
  | duplicateSymbol _ => "duplicate_symbol"
  | typeMismatch => "type_mismatch"
  | literalOutOfRange _ _ => "literal_out_of_range"
  | unexpectedBreak => "unexpected_break"
  | unexpectedContinue => "unexpected_continue"
  | prototypeMismatch _ _ => "prototype_mismatch"
  | nameKindMismatch _ _ => "symbol_kind_mismatch"
  | missingMain => "missing_main"

/-- The fields of a violation's kind. -/
def Violation.fields : Violation → List (String × Json)
  | undefinedVariable name => [("name", .text name)]
  | undefinedFunction name => [("name", .text name)]
  | duplicateSymbol name => [("name", .text name)]
  | literalOutOfRange type value => [("ty", type.toJson), ("value", .number value)]
  | prototypeMismatch function params =>
    [("function", .text function), ("params", ValueType.listToJson params)]
  | nameKindMismatch name actual => [("name", .text name), ("actual", .text actual.word)]
  | typeMismatch => []
  | unexpectedBreak => []
  | unexpectedContinue => []
  | missingMain => []

/-- The line, the kind and the kind's fields of a diagnostic. -/
def Diagnostic.toJson (diagnostic : Diagnostic) : Json :=
  let line : Json :=
    match diagnostic.line with
    | some line => .number line
    | none => .null
  .object
    (("line", line) :: ("kind", .text diagnostic.violation.kindName) :: diagnostic.violation.fields)

/-- An answer without its kind. -/
def Answer.toJson : Answer → Json
  | accepted outline => outline.toJson
  | rejected diagnostic => diagnostic.toJson

/-- The fields of a scenario. -/
def Scenario.toJson (scenario : Scenario) : Json :=
  .object
    [("name", .text scenario.name), ("source", .text scenario.source),
      ("outcome", .text scenario.answer.label), ("expected", scenario.answer.toJson)]

/-- The scenarios of a suite in order. -/
def Suite.toJson (suite : Suite) : Json :=
  .array (suite.scenarios.map Scenario.toJson)

/-- The listing of a suite, one element or field a line. -/
def Suite.listing (suite : Suite) : String :=
  suite.toJson.renderSpread

end Conformance
