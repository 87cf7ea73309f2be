import Conformance.Suite
import Mathlib.Tactic.Lemma

/-!
# What a suite has of the attempts that made it

A suite is made by attempts to define scenarios, of which those with a taken name fail. The list of
scenarios and the map of positions are changed by every attempt that succeeds, and the two have to
say the same after any number of attempts.

* **One attempt** (`define_cases`): it fails exactly if the name is one of the suite's, and
  otherwise puts its scenario last.
* **Runs** (`scenarios_run`): after attempts in order, the scenarios are those that were there and
  those of the attempts that succeeded (`accepted`).
* **Look-up** (`get?_eq_some_iff`): a name finds a scenario exactly if the scenario is listed and
  has the name.
* **Main statement** (`collects_run`): all of this for the suite that any attempts make, and for any
  attempt that follows them.
-/

namespace Conformance.Suite

/-! ## One attempt -/

/-- The suite after an attempt to define a scenario; an attempt that fails leaves it as it is. -/
def attempt (suite : Suite) (scenario : Scenario) : Suite :=
  match suite.define scenario with
  | .ok extended => extended
  | .error _ => suite

/-- **One attempt** fails if the name is taken, and else puts the scenario last. -/
lemma define_cases (suite : Suite) (scenario : Scenario) :
    (scenario.name ∈ suite.names ∧
        suite.define scenario = .error (.nameTaken scenario.name)) ∨
      ∃ extended, scenario.name ∉ suite.names ∧ suite.define scenario = .ok extended ∧
        extended.scenarios = suite.scenarios ++ [scenario] := by
  unfold define
  by_cases htaken : scenario.name ∈ suite.positions
  · exact .inl ⟨mem_positions.mp htaken, by rw [dif_pos htaken]⟩
  · refine .inr ⟨_, fun hmem => htaken (mem_positions.mpr hmem), by rw [dif_neg htaken], rfl⟩

/-- An attempt fails exactly if the name is taken, and the error says which name it is. -/
lemma define_eq_error_iff {suite : Suite} {scenario : Scenario} {error : Error} :
    suite.define scenario = .error error ↔
      error = .nameTaken scenario.name ∧ scenario.name ∈ suite.names := by
  rcases define_cases suite scenario with ⟨htaken, hdefine⟩ | ⟨extended, hfresh, hdefine, -⟩
  · rw [hdefine, Except.error.injEq]
    exact ⟨fun heq => ⟨heq.symm, htaken⟩, fun h => h.1.symm⟩
  · rw [hdefine]
    exact ⟨nofun, fun h => absurd h.2 hfresh⟩

/-! ## Runs -/

/-- The suite after attempts in order. -/
def run (suite : Suite) (attempts : List Scenario) : Suite :=
  attempts.foldl attempt suite

/-- The scenarios of those attempts that succeed when all are made in order. -/
def accepted : Suite → List Scenario → List Scenario
  | _, [] => []
  | suite, scenario :: attempts =>
    match suite.define scenario with
    | .ok extended => scenario :: accepted extended attempts
    | .error _ => accepted suite attempts

/-- **Runs** put the accepted scenarios after those that are there. -/
lemma scenarios_run (suite : Suite) (attempts : List Scenario) :
    (suite.run attempts).scenarios = suite.scenarios ++ accepted suite attempts := by
  induction attempts generalizing suite with
  | nil => simp [run, accepted]
  | cons scenario attempts ih =>
      have hrun : suite.run (scenario :: attempts) = (suite.attempt scenario).run attempts := rfl
      rw [hrun, ih, attempt, accepted]
      rcases define_cases suite scenario with ⟨-, hdefine⟩ | ⟨extended, -, hdefine, hlast⟩
      · rw [hdefine]
      · rw [hdefine]
        dsimp only
        rw [hlast, List.append_assoc, List.singleton_append]

/-- The scenarios of a suite that attempts have made are the accepted ones. -/
lemma scenarios_run_empty (attempts : List Scenario) :
    (empty.run attempts).scenarios = accepted empty attempts := by
  rw [scenarios_run, empty, List.nil_append]

/-- After a failing attempt everything is as it was before. -/
lemma run_concat_of_error {suite : Suite} {attempts : List Scenario} {scenario : Scenario}
    {error : Error} (h : (suite.run attempts).define scenario = .error error) :
    suite.run (attempts ++ [scenario]) = suite.run attempts := by
  have hrun : suite.run (attempts ++ [scenario]) = (suite.run attempts).attempt scenario := by
    rw [run, run, List.foldl_append]
    rfl
  rw [hrun, attempt, h]

/-! ## Look-up -/

/-- A name is looked up in the map, and its position in the list. -/
lemma get?_eq_bind (suite : Suite) (name : String) :
    suite.get? name = suite.positions[name]?.bind fun position => suite.scenarios[position]? := by
  unfold get?
  split
  · next position hposition =>
    have hbind : (suite.positions[name]?.bind fun position => suite.scenarios[position]?) =
        suite.scenarios[position]? := by
      rw [hposition, Option.bind_some]
    rw [hbind]
    exact (List.getElem?_eq_getElem (lt_size_of_position hposition)).symm
  · next hnone =>
    rw [hnone, Option.bind_none]

/-- **Look-up** by a name gives the listed scenario that has the name. -/
lemma get?_eq_some_iff {suite : Suite} {name : String} {scenario : Scenario} :
    suite.get? name = some scenario ↔ scenario ∈ suite.scenarios ∧ scenario.name = name := by
  rw [get?_eq_bind, Option.bind_eq_some_iff]
  constructor
  · rintro ⟨position, hposition, hstands⟩
    obtain ⟨stored, hstored, hname⟩ := getElem?_positions.mp hposition
    have hsame : stored = scenario := Option.some.inj (hstored.symm.trans hstands)
    exact ⟨List.mem_of_getElem? hstands, hsame ▸ hname⟩
  · rintro ⟨hmem, hname⟩
    obtain ⟨position, hstands⟩ := List.getElem?_of_mem hmem
    exact ⟨position, getElem?_positions.mpr ⟨scenario, hstands, hname⟩, hstands⟩

/-! ## The suite that attempts make -/

/-- What a suite has of the attempts that made it. -/
structure Collects (attempts : List Scenario) (suite : Suite) : Prop where
  /-- It lists the accepted scenarios in the order of the attempts. -/
  scenarios_eq : suite.scenarios = accepted empty attempts
  /-- No two of them have one name. -/
  accepted_nodup : ((accepted empty attempts).map Scenario.name).Nodup
  /-- It has as many scenarios as attempts succeeded. -/
  size_eq : suite.size = (accepted empty attempts).length
  /-- A name finds a scenario exactly if the scenario is listed and has the name. -/
  get?_iff : ∀ name scenario, suite.get? name = some scenario ↔
    scenario ∈ accepted empty attempts ∧ scenario.name = name
  /-- A position that is kept for a name is one of the list, and the scenario there has the name. -/
  position_iff : ∀ (name : String) (position : Nat), suite.positions[name]? = some position ↔
    ∃ inRange : position < suite.size, (suite.scenarios.get ⟨position, inRange⟩).name = name

/-- What happens to an attempt that follows others. -/
structure Decides (attempts : List Scenario) (suite : Suite) (next : Scenario) : Prop where
  /-- It fails exactly if an attempt before it succeeded with the same name, and says the name. -/
  error_iff : ∀ error, suite.define next = .error error ↔
    error = .nameTaken next.name ∧
      ∃ earlier ∈ accepted empty attempts, earlier.name = next.name
  /-- If it fails, it leaves the suite as it is. -/
  run_eq : ∀ error, suite.define next = .error error → empty.run (attempts ++ [next]) = suite

/-- **A suite collects what succeeds.** After any attempts on the empty suite, the suite lists the
accepted scenarios in order, under names that are all different, and finds each by its name at the
position that is kept for it. A further attempt fails exactly if its name is that of an accepted
scenario, and then changes nothing. -/
theorem collects_run (attempts : List Scenario) :
    Collects attempts (empty.run attempts) ∧
      ∀ next, Decides attempts (empty.run attempts) next := by
  have hscenarios := scenarios_run_empty attempts
  constructor
  · refine ⟨hscenarios, ?_, ?_, ?_, ?_⟩
    · rw [← hscenarios]
      exact (empty.run attempts).names_nodup
    · rw [size, hscenarios]
    · intro name scenario
      rw [get?_eq_some_iff, hscenarios]
    · intro name position
      rw [getElem?_positions]
      constructor
      · rintro ⟨scenario, hstands, rfl⟩
        obtain ⟨hlt, rfl⟩ := List.getElem?_eq_some_iff.mp hstands
        exact ⟨hlt, rfl⟩
      · rintro ⟨hlt, hname⟩
        exact ⟨_, List.getElem?_eq_getElem hlt, hname⟩
  · intro next
    refine ⟨?_, ?_⟩
    · intro error
      rw [define_eq_error_iff, names, hscenarios, List.mem_map]
    · intro error herror
      exact run_concat_of_error herror

/-- Of three attempts the second fails, and its name finds what the first one defined. -/
example :
    let attempts : List Scenario :=
      [⟨"b", "first", .rejected .missingMain⟩, ⟨"b", "second", .accepted .empty⟩,
        ⟨"a", "third", .accepted .empty⟩]
    (empty.run attempts).names = ["b", "a"] ∧
      ((empty.run attempts).get? "b").map (·.source) = some "first" := by
  decide +kernel

end Conformance.Suite
