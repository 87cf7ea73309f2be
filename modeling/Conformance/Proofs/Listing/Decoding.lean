import Conformance.Listing
import Conformance.Proofs.Diagnostic.Construction
import Conformance.Proofs.Diagnostic.Messages
import Conformance.Proofs.Json.Reading

/-!
# Decoding a listing

A decoder for the listing of a suite, and the proof that it returns the scenarios of the suite, with
their sources as they were written and in order. A field is found by its name, so that no two fields
of one object may share a name; which fields there are depends on the kind that another field says.

* **Fields** (`Json.fieldAs?`): the value of the field of a name, read as what it must be.
* **Outlines** (`Scope.ofJson?_toJson`, `Outline.ofJson?_toJson`): scopes are decoded item by item,
  however deep they are nested.
* **Diagnostics** (`Violation.ofJson?_toJson_diagnostic`, `Diagnostic.ofJson?_toJson`): the fields
  of a violation stand beside the line and the kind in one object.
* **Main statement** (`Suite.ofListing?_listing`): decoding the listing of a suite gives its
  scenarios.
-/

namespace Conformance

/-! ## Fields -/

namespace Json

/-- The value of the field of a name, read by a reader of values. -/
def fieldAs? {α : Type} (read : Json → Option α) (name : String) : Json → Option α
  | object fields => (fields.lookup name).bind read
  | _ => none

/-- The text that a value is. -/
@[simp] def text? : Json → Option String
  | text value => some value
  | _ => none

/-- The number that a value is. -/
@[simp] def number? : Json → Option Int
  | number value => some value
  | _ => none

/-- The elements of an array, each read by a reader of values. -/
def arrayOf? {α : Type} (read : Json → Option α) : Json → Option (List α)
  | array elements => elements.mapM read
  | _ => none

section

variable {α : Type} {read : Json → Option α} {name : String} {value : Json}
  {fields : List (String × Json)}

/-- The first field is found by its name. -/
@[simp] lemma fieldAs?_first :
    (object ((name, value) :: fields)).fieldAs? read name = read value := by
  rw [fieldAs?, List.lookup_cons_self, Option.bind_some]

/-- A field of another name than the first is found among the others. -/
@[simp] lemma fieldAs?_later {other : String} (h : name ≠ other) :
    (object ((other, value) :: fields)).fieldAs? read name =
      (object fields).fieldAs? read name := by
  have hlookup : ((other, value) :: fields).lookup name = fields.lookup name := by
    rw [List.lookup_cons, beq_false_of_ne h]
  rw [fieldAs?, fieldAs?, hlookup]

/-- An array is read if each of its elements is. -/
lemma arrayOf?_map {write : α → Json} (h : ∀ value, read (write value) = some value)
    (values : List α) : arrayOf? read (array (values.map write)) = some values :=
  mapM_map_eq_some h values

end

end Json

/-! ## Outlines -/

/-- The type that a value names. -/
def ValueType.ofJson? (json : Json) : Option ValueType :=
  json.text?.bind ofKeyword?

/-- Decoding a type. -/
@[simp] lemma ValueType.ofJson?_toJson (type : ValueType) : ofJson? type.toJson = some type :=
  ofKeyword?_keyword type

/-- Decoding types in order. -/
@[simp] lemma ValueType.arrayOf?_listToJson (types : List ValueType) :
    Json.arrayOf? ofJson? (listToJson types) = some types :=
  Json.arrayOf?_map ofJson?_toJson types

/-- The binding with the fields of a value. -/
def Binding.ofJson? (json : Json) : Option Binding := do
  let name ← json.fieldAs? Json.text? "name"
  let type ← json.fieldAs? ValueType.ofJson? "ty"
  let slot ← json.fieldAs? Json.number? "slot"
  return ⟨name, type, Int32.ofInt slot⟩

/-- Decoding a binding. -/
@[simp] lemma Binding.ofJson?_toJson (binding : Binding) :
    ofJson? binding.toJson = some binding := by
  simp [ofJson?, toJson]

namespace Scope

mutual

/-- The scope with the items of a value. -/
def ofJson? : Json → Option Scope
  | .object [(name, .array items)] => if name = "items" then ofItems? items else none
  | _ => none

/-- The scope with items in order, each an object with one field that is named for its kind. -/
def ofItems? : List Json → Option Scope
  | [] => some empty
  | .object [(kind, value)] :: items =>
    if kind = "Binding" then
      (Binding.ofJson? value).bind fun first => (ofItems? items).map (binding first)
    else if kind = "Nested" then
      (ofJson? value).bind fun inner => (ofItems? items).map (nested inner)
    else none
  | _ => none

end

/-- Decoding the items of a scope. -/
lemma ofItems?_itemsToJson (scope : Scope) : ofItems? scope.itemsToJson = some scope := by
  induction scope with
  | empty => rw [itemsToJson, ofItems?]
  | binding first rest ih => simp [itemsToJson, ofItems?, ih]
  | nested inner rest ihInner ihRest =>
      simp [itemsToJson, toJson, ofItems?, ofJson?, ihInner, ihRest]

/-- **Decoding a scope**, with all the scopes within it. -/
lemma ofJson?_toJson (scope : Scope) : ofJson? scope.toJson = some scope := by
  rw [toJson, ofJson?, if_pos rfl, ofItems?_itemsToJson]

end Scope

/-- The signature with the fields of a value. -/
def Signature.ofJson? (json : Json) : Option Signature := do
  let name ← json.fieldAs? Json.text? "name"
  let params ← json.fieldAs? (Json.arrayOf? ValueType.ofJson?) "params"
  let result ← json.fieldAs? ValueType.ofJson? "ret"
  return ⟨name, params, result⟩

/-- Decoding a signature. -/
lemma Signature.ofJson?_toJson (signature : Signature) :
    ofJson? signature.toJson = some signature := by
  simp [ofJson?, toJson]

/-- The outline with the fields of a value. -/
def Outline.ofJson? (json : Json) : Option Outline := do
  let signatures ← json.fieldAs? (Json.arrayOf? Signature.ofJson?) "signatures"
  let scopes ← json.fieldAs? (Json.arrayOf? Scope.ofJson?) "bodies"
  return ⟨signatures, scopes⟩

/-- **Decoding an outline**. -/
lemma Outline.ofJson?_toJson (outline : Outline) : ofJson? outline.toJson = some outline := by
  have hsignatures := Json.arrayOf?_map Signature.ofJson?_toJson outline.signatures
  have hscopes := Json.arrayOf?_map Scope.ofJson?_toJson outline.scopes
  simp [ofJson?, toJson, hsignatures, hscopes]

/-! ## Diagnostics -/

/-- The violation with the kind and the fields of a value. -/
def Violation.ofJson? (json : Json) : Option Violation := do
  match ← json.fieldAs? Json.text? "kind" with
  | "undefined_variable" => return undefinedVariable (← json.fieldAs? Json.text? "name")
  | "undefined_function" => return undefinedFunction (← json.fieldAs? Json.text? "name")
  | "duplicate_symbol" => return duplicateSymbol (← json.fieldAs? Json.text? "name")
  | "type_mismatch" => return typeMismatch
  | "literal_out_of_range" =>
    let type ← json.fieldAs? ValueType.ofJson? "ty"
    let value ← json.fieldAs? Json.number? "value"
    return literalOutOfRange type value
  | "unexpected_break" => return unexpectedBreak
  | "unexpected_continue" => return unexpectedContinue
  | "prototype_mismatch" =>
    let function ← json.fieldAs? Json.text? "function"
    let params ← json.fieldAs? (Json.arrayOf? ValueType.ofJson?) "params"
    return prototypeMismatch function params
  | "symbol_kind_mismatch" =>
    let name ← json.fieldAs? Json.text? "name"
    let actual ← json.fieldAs? (Json.text? · >>= NameKind.ofWord?) "actual"
    return nameKindMismatch name actual
  | "missing_main" => return missingMain
  | _ => none

/-- Decoding the violation of a diagnostic. -/
lemma Violation.ofJson?_toJson_diagnostic (diagnostic : Diagnostic) :
    ofJson? diagnostic.toJson = some diagnostic.violation := by
  rw [Diagnostic.toJson]
  cases diagnostic.violation <;> simp [ofJson?, kindName, fields, NameKind.ofWord?_word]

/-- The line that a value is, if it is not null. -/
def Diagnostic.lineOfJson? : Json → Option (Option Nat)
  | .null => some none
  | .number line => some line.toNat
  | _ => none

/-- The diagnostic with the line and the violation of a value. -/
def Diagnostic.ofJson? (json : Json) : Option Diagnostic := do
  let line ← json.fieldAs? lineOfJson? "line"
  let violation ← Violation.ofJson? json
  ofParts? line violation

/-- **Decoding a diagnostic**, with its line or without one. -/
lemma Diagnostic.ofJson?_toJson (diagnostic : Diagnostic) :
    ofJson? diagnostic.toJson = some diagnostic := by
  have hline : diagnostic.toJson.fieldAs? lineOfJson? "line" = some diagnostic.line := by
    rw [toJson]
    cases diagnostic.line <;> rfl
  rw [ofJson?, hline, Violation.ofJson?_toJson_diagnostic]
  exact ofParts?_parts diagnostic

/-! ## Listings -/

/-- The answer of a kind, decoded from a value. -/
def Answer.ofJson? (json : Json) : (label : String) → Option Answer
  | "success" => (Outline.ofJson? json).map accepted
  | "failure" => (Diagnostic.ofJson? json).map rejected
  | _ => none

/-- Decoding an answer whose kind is known. -/
lemma Answer.ofJson?_toJson (answer : Answer) :
    ofJson? answer.toJson answer.label = some answer := by
  cases answer with
  | accepted outline => simp [toJson, label, ofJson?, Outline.ofJson?_toJson]
  | rejected diagnostic => simp [toJson, label, ofJson?, Diagnostic.ofJson?_toJson]

/-- The scenario with the fields of a value. -/
def Scenario.ofJson? (json : Json) : Option Scenario := do
  let name ← json.fieldAs? Json.text? "name"
  let source ← json.fieldAs? Json.text? "source"
  let label ← json.fieldAs? Json.text? "outcome"
  let answer ← json.fieldAs? (Answer.ofJson? · label) "expected"
  return ⟨name, source, answer⟩

/-- Decoding a scenario. -/
lemma Scenario.ofJson?_toJson (scenario : Scenario) : ofJson? scenario.toJson = some scenario := by
  simp [ofJson?, toJson, Answer.ofJson?_toJson]

namespace Suite

/-- The scenarios that a listing is for. -/
def ofListing? (listing : String) : Option (List Scenario) :=
  (Json.read? listing).bind (Json.arrayOf? Scenario.ofJson?)

/-- **A listing loses nothing.** Decoding the listing of a suite gives its scenarios in order, with
their sources as they were written and their answers; so suites with one listing have the same
scenarios. -/
theorem ofListing?_listing (suite : Suite) :
    ofListing? suite.listing = some suite.scenarios ∧
      ∀ other : Suite, other.listing = suite.listing ↔ other.scenarios = suite.scenarios := by
  have hread (listed : Suite) : ofListing? listed.listing = some listed.scenarios := by
    rw [ofListing?, listing, Json.read?_renderSpread, Option.bind_some]
    exact Json.arrayOf?_map Scenario.ofJson?_toJson listed.scenarios
  refine ⟨hread suite, ?_⟩
  intro other
  constructor
  · intro hlisting
    have hsame := hread other
    rw [hlisting, hread suite] at hsame
    exact (Option.some.inj hsame).symm
  · intro hscenarios
    rw [listing, listing, toJson, toJson, hscenarios]

end Suite

end Conformance
