import Conformance.Answer
import Conformance.Error
import Std.Data.ExtTreeMap

/-!
# Scenarios and suites

The conformance scenarios and the ordered collection that holds them.

* **Scenario** (`Scenario`): a name, a source program as it was written, and the answer that the
  analyser must give; `sourceText` and `answerText` are what its two files hold.
* **Suite** (`Suite`): scenarios in the order in which they were defined, no two with one name, and
  the position of each by its name. Names are compared character by character.
* **Positions** (`Suite.positionsOf`): they are kept in a map beside the list, so that a name is
  found without a search; where names are all different, the map says where each scenario stands
  (`Suite.getElem?_positionsOf`).
* **Definition** (`Suite.define`): a scenario with a new name is put last; a name that is taken is
  an error, and the scenario that has it stays.
* **Look-up** (`Suite.get?`, `Suite.get`): by name; `get` makes an error of a name that no scenario
  has.
-/

namespace Conformance

/-- A source program and the answer that the analyser must give for it. -/
structure Scenario where
  /-- The name of the scenario, and of its files up to their extension. -/
  name : String
  /-- The source as it was written. -/
  source : String
  /-- The answer to it. -/
  answer : Answer
  deriving DecidableEq

namespace Scenario

/-- What the source file of a scenario holds. -/
def sourceText (scenario : Scenario) : String :=
  storedSource scenario.source

/-- What the answer file of a scenario holds. -/
def answerText (scenario : Scenario) : String :=
  storedAnswer scenario.answer.text

end Scenario

namespace Suite

/-! ## Positions -/

/-- The names of scenarios with their positions, counted from zero. -/
def numbered (scenarios : List Scenario) : List (String × Nat) :=
  scenarios.mapIdx fun position scenario => (scenario.name, position)

/-- The position of each scenario by its name. -/
def positionsOf (scenarios : List Scenario) : Std.ExtTreeMap String Nat :=
  .ofList (numbered scenarios)

/-- Numbering keeps the names. -/
theorem map_fst_numbered (scenarios : List Scenario) :
    (numbered scenarios).map Prod.fst = scenarios.map Scenario.name := by
  unfold numbered
  apply List.ext_getElem <;> simp

/-- One scenario more gets the position after those before it. -/
theorem positionsOf_concat (scenarios : List Scenario) (last : Scenario) :
    positionsOf (scenarios ++ [last]) =
      (positionsOf scenarios).insert last.name scenarios.length := by
  rw [positionsOf, positionsOf, numbered, numbered, List.mapIdx_concat,
    Std.ExtTreeMap.ofList_eq_insertMany_empty, Std.ExtTreeMap.ofList_eq_insertMany_empty,
    Std.ExtTreeMap.insertMany_append, Std.ExtTreeMap.insertMany_list_singleton]

/-- The names that have a position are those of the scenarios. -/
theorem mem_positionsOf {scenarios : List Scenario} {name : String} :
    name ∈ positionsOf scenarios ↔ name ∈ scenarios.map Scenario.name := by
  rw [positionsOf, Std.ExtTreeMap.mem_ofList, map_fst_numbered, List.contains_iff_mem]

/-- Where names are all different, a name has the position at which its scenario stands. -/
theorem getElem?_positionsOf {scenarios : List Scenario}
    (names_nodup : (scenarios.map Scenario.name).Nodup) {name : String} {position : Nat} :
    (positionsOf scenarios)[name]? = some position ↔
      ∃ scenario, scenarios[position]? = some scenario ∧ scenario.name = name := by
  have distinct : (numbered scenarios).Pairwise
      fun first second => ¬compare first.1 second.1 = .eq := by
    rw [← map_fst_numbered, List.Nodup, List.pairwise_map] at names_nodup
    exact names_nodup.imp fun differ same => differ (Std.LawfulEqOrd.eq_of_compare same)
  have stands : ∀ (position : Nat) (scenario : Scenario), scenarios[position]? = some scenario →
      (positionsOf scenarios)[scenario.name]? = some position := by
    intro position scenario at_position
    apply Std.ExtTreeMap.getElem?_ofList_of_mem Std.ReflCmp.compare_self distinct
    apply List.mem_of_getElem? (i := position)
    rw [numbered, List.getElem?_mapIdx, at_position, Option.map_some]
  constructor
  · intro found
    have member : name ∈ positionsOf scenarios := by
      rw [Std.ExtTreeMap.mem_iff_isSome_getElem?, found, Option.isSome_some]
    obtain ⟨scenario, scenario_mem, rfl⟩ := List.mem_map.mp (mem_positionsOf.mp member)
    obtain ⟨other, at_other⟩ := List.getElem?_of_mem scenario_mem
    have same : position = other := by
      rw [stands other scenario at_other] at found
      exact (Option.some.inj found).symm
    exact ⟨scenario, same ▸ at_other, rfl⟩
  · rintro ⟨scenario, at_position, rfl⟩
    exact stands position scenario at_position

end Suite

/-- Scenarios in order, each with a name of its own. -/
structure Suite where
  /-- The scenarios in order of definition. -/
  scenarios : List Scenario
  /-- No two scenarios have one name. -/
  names_nodup : (scenarios.map Scenario.name).Nodup
  /-- The position of each scenario by its name. -/
  positions : Std.ExtTreeMap String Nat := Suite.positionsOf scenarios
  /-- The positions are those of the scenarios. -/
  positions_eq : positions = Suite.positionsOf scenarios := by rfl

namespace Suite

/-- The suite without any scenario. -/
def empty : Suite where
  scenarios := []
  names_nodup := List.nodup_nil

/-- The names of the scenarios in order. -/
def names (suite : Suite) : List String :=
  suite.scenarios.map Scenario.name

/-- The number of scenarios. -/
def size (suite : Suite) : Nat :=
  suite.scenarios.length

/-- Whether there is no scenario. -/
def isEmpty (suite : Suite) : Bool :=
  suite.scenarios.isEmpty

/-- A name has a position exactly if a scenario has the name. -/
theorem mem_positions {suite : Suite} {name : String} :
    name ∈ suite.positions ↔ name ∈ suite.names := by
  rw [suite.positions_eq, mem_positionsOf, names]

/-- The position of a name is that at which its scenario stands. -/
theorem getElem?_positions {suite : Suite} {name : String} {position : Nat} :
    suite.positions[name]? = some position ↔
      ∃ scenario, suite.scenarios[position]? = some scenario ∧ scenario.name = name := by
  rw [suite.positions_eq]
  exact getElem?_positionsOf suite.names_nodup

/-- At the position of a name there is a scenario. -/
theorem lt_size_of_position {suite : Suite} {name : String} {position : Nat}
    (found : suite.positions[name]? = some position) : position < suite.scenarios.length := by
  obtain ⟨scenario, at_position, -⟩ := getElem?_positions.mp found
  exact (List.getElem?_eq_some_iff.mp at_position).1

/-- The scenario of a name. -/
def get? (suite : Suite) (name : String) : Option Scenario :=
  match found : suite.positions[name]? with
  | some position => some (suite.scenarios.get ⟨position, lt_size_of_position found⟩)
  | none => none

/-- The scenario of a name, which has to be there. -/
def get (suite : Suite) (name : String) : Except Error Scenario :=
  match suite.get? name with
  | some scenario => .ok scenario
  | none => .error (.nameUnknown name)

/-- The suite with one more scenario put last, unless the scenario's name is taken. -/
def define (suite : Suite) (scenario : Scenario) : Except Error Suite :=
  if taken : scenario.name ∈ suite.positions then .error (.nameTaken scenario.name)
  else
    .ok
      { scenarios := suite.scenarios ++ [scenario]
        names_nodup := by
          have fresh : ∀ name ∈ suite.scenarios.map Scenario.name, ¬name = scenario.name :=
            fun name member equal => taken (mem_positions.mpr (equal ▸ member))
          simpa [List.nodup_append, suite.names_nodup] using fresh
        positions := suite.positions.insert scenario.name suite.size
        positions_eq := by rw [positionsOf_concat, suite.positions_eq, size] }

end Suite

end Conformance
