import Conformance.ValueType

/-!
# Scopes and their slots

The scope of a function body as the analyser must report it: bindings and nested scopes in source
order, each binding with the slot that it occupies.

* **The scope** (`Scope`): a list of items, an item being a binding or a nested scope.
* **The body** (`Body`): what a program writes, declarations and blocks without slots.
* **Numbering** (`Body.number`, `functionScope`): parameters take the slots `-1, -2, …` in order;
  locals take `0, 1, …` in program order, with one counter for the whole body, nested blocks
  included, and a fresh counter for each function.
-/

namespace Conformance

/-- A declared name with its type: a parameter, or a local of a body. -/
structure Declaration where
  /-- The declared name. -/
  name : String
  /-- Its type. -/
  type : ValueType
  deriving DecidableEq

/-- A declared name with its type and the slot it occupies in its function's frame. -/
structure Binding where
  /-- The declared name. -/
  name : String
  /-- Its type. -/
  type : ValueType
  /-- Negative for a parameter, otherwise the local's place in the function. -/
  slot : Int32
  deriving DecidableEq

/-- The line that reports a binding: name, type and slot with one space between them. -/
def Binding.display (binding : Binding) : String :=
  binding.name ++ " " ++ binding.type.keyword ++ " " ++ toString binding.slot.toInt

/-- The items of a scope in source order. -/
inductive Scope where
  /-- No further item. -/
  | empty
  /-- A binding, then the remaining items. -/
  | binding (first : Binding) (rest : Scope)
  /-- A nested scope, then the remaining items. -/
  | nested (inner rest : Scope)
  deriving DecidableEq

namespace Scope

/-- The bindings of a scope and of every scope within it, in source order. -/
def bindings : Scope → List Binding
  | empty => []
  | binding first rest => first :: rest.bindings
  | nested inner rest => inner.bindings ++ rest.bindings

/-- Whether a scope has no item at all; an empty nested scope is an item. -/
def isEmpty : Scope → Bool
  | empty => true
  | _ => false

/-- The number of items of a scope itself, a nested scope counting as one. -/
def itemCount : Scope → Nat
  | empty => 0
  | binding _ rest => rest.itemCount + 1
  | nested _ rest => rest.itemCount + 1

end Scope

/-! ## Function bodies -/

/-- What a function body declares, in program order. -/
inductive Body where
  /-- Nothing more. -/
  | done
  /-- A local, then the remaining statements. -/
  | declare (first : Declaration) (rest : Body)
  /-- A block with statements of its own, then the remaining statements. -/
  | block (inner rest : Body)
  deriving DecidableEq

namespace Body

/-- The locals of a body and of every block within it, in program order. -/
def locals : Body → List Declaration
  | done => []
  | declare first rest => first :: rest.locals
  | block inner rest => inner.locals ++ rest.locals

/-- The scope of a body whose next local takes slot `next`, and the slot that is free after it. A
block hands the counter on to the statements after it. -/
def number : Body → Int32 → Scope × Int32
  | done, next => (.empty, next)
  | declare first rest, next =>
    let (scope, free) := rest.number (next + 1)
    (.binding ⟨first.name, first.type, next⟩ scope, free)
  | block inner rest, next =>
    let (innerScope, afterInner) := inner.number next
    let (scope, free) := rest.number afterInner
    (.nested innerScope scope, free)

end Body

/-- The slot of the parameter at position `index`, counted from zero. -/
def parameterSlot (index : Nat) : Int32 :=
  -(Int32.ofNat index) - 1

/-- A scope with the parameters from position `index` on put before its items. -/
def Scope.withParameters : List Declaration → (index : Nat) → Scope → Scope
  | [], _, scope => scope
  | param :: params, index, scope =>
    .binding ⟨param.name, param.type, parameterSlot index⟩
      (scope.withParameters params (index + 1))

/-- The scope of a function: its parameters, then what its body declares. -/
def functionScope (params : List Declaration) (body : Body) : Scope :=
  (body.number 0).1.withParameters params 0

end Conformance
