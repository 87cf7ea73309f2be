import Conformance.Proofs.Fixture.Storing
import Mathlib.Data.List.Nodup

/-!
# The files of a suite as entries of one directory

A suite is written as a list of texts under names of one directory, although it is done scenario by
scenario.

* **Names** (`Suite.fileNames_entries`): where no scenario's name holds a slash, the files of a
  suite have names that are names of files and all different, since the scenarios have names of
  their own and the two extensions differ.
* **Runs** (`run_storeScenarios`, `run_store_cases`): writing scenarios is writing their files in
  order, and writing a suite is creating the directory and then writing its files
  (`exists_storesAll_of_store`). Into a directory that is there it is complete exactly if there is
  room for each file (`failure_store_eq_none_iff`).
-/

namespace Conformance

open Disk

/-! ## Names -/

/-- A name with the extension of source files. -/
def sourceName (name : String) : String := name ++ "." ++ sourceExtension

/-- A name with the extension of answer files. -/
def answerName (name : String) : String := name ++ "." ++ answerExtension

/-- The texts of a scenario with the names of their files. -/
def Scenario.entries (scenario : Scenario) : List (String × String) :=
  [(sourceName scenario.name, scenario.sourceText), (answerName scenario.name, scenario.answerText)]

/-- The texts of a suite with the names of their files, in order. -/
def Suite.entries (suite : Suite) : List (String × String) :=
  suite.scenarios.flatMap Scenario.entries

/-- The source file has its name in the directory. -/
lemma sourcePath_eq (dir : Path) (name : String) :
    sourcePath dir name = dir.join ⟨sourceName name⟩ := by
  rw [sourcePath, sourceName]

/-- The answer file has its name in the directory. -/
lemma answerPath_eq (dir : Path) (name : String) :
    answerPath dir name = dir.join ⟨answerName name⟩ := by
  rw [answerPath, answerName]

/-- The files of a suite are its texts under their names. -/
lemma Suite.files_eq (suite : Suite) (dir : Path) :
    suite.files dir = suite.entries.map (entryFile dir) := by
  have hfiles : ∀ scenario : Scenario,
      scenario.files dir = scenario.entries.map (entryFile dir) := by
    intro scenario
    rw [Scenario.files, Scenario.entries, sourcePath_eq, answerPath_eq, List.map_cons,
      List.map_cons, List.map_nil, entryFile, entryFile]
  rw [Suite.files, Suite.entries, List.map_flatMap]
  exact congrArg suite.scenarios.flatMap (funext hfiles)

/-- A name with an extension ends as the extension does. -/
lemma getLast?_append_extension (name : String) {extension : String} {last : Char}
    (h : extension.toList.getLast? = some last) :
    (name ++ "." ++ extension).toList.getLast? = some last := by
  rw [String.toList_append, List.getLast?_append, h]
  rfl

/-- A text is no name with an extension that ends in another character. -/
lemma ne_append_extension {text name extension : String} {last : Char}
    (h : extension.toList.getLast? = some last) (htext : text.toList.getLast? ≠ some last) :
    text ≠ name ++ "." ++ extension := by
  rintro rfl
  exact htext (getLast?_append_extension name h)

/-- A name with an extension is the name of a file, unless it holds a slash. -/
lemma isFileName_append {name extension : String} {last : Char} (hname : '/' ∉ name.toList)
    (hextension : '/' ∉ extension.toList) (hlast : extension.toList.getLast? = some last)
    (hdot : last ≠ '.') : IsFileName (name ++ "." ++ extension) := by
  have hend := getLast?_append_extension name hlast
  refine ⟨?_, ?_, ?_, ?_⟩
  · simp [hname, hextension]
  · intro heq
    simp [heq] at hend
  · intro heq
    rw [heq] at hend
    exact hdot (Option.some.inj hend).symm
  · intro heq
    rw [heq] at hend
    exact hdot (Option.some.inj hend).symm

/-- Source files have names of files. -/
lemma isFileName_sourceName {name : String} (h : '/' ∉ name.toList) :
    IsFileName (sourceName name) :=
  @isFileName_append _ _ 'n' h (by decide) (by decide) (by decide)

/-- Answer files have names of files. -/
lemma isFileName_answerName {name : String} (h : '/' ∉ name.toList) :
    IsFileName (answerName name) :=
  @isFileName_append _ _ 't' h (by decide) (by decide) (by decide)

/-- The name of a source file tells the name of the scenario. -/
lemma sourceName_inj {first second : String} (h : sourceName first = sourceName second) :
    first = second := by
  unfold sourceName at h
  simpa using h

/-- The name of an answer file tells the name of the scenario. -/
lemma answerName_inj {first second : String} (h : answerName first = answerName second) :
    first = second := by
  unfold answerName at h
  simpa using h

/-- No source file has the name of an answer file. -/
lemma sourceName_ne_answerName (first second : String) : sourceName first ≠ answerName second := by
  have hsource : (sourceName first).toList.getLast? = some 'n' :=
    getLast?_append_extension first (by decide)
  refine @ne_append_extension _ _ _ 't' (by decide) ?_
  rw [hsource]
  decide

/-- The files of scenarios with names of their own have names of their own. -/
lemma nodup_entries {scenarios : List Scenario} (h : (scenarios.map Scenario.name).Nodup) :
    ((scenarios.flatMap Scenario.entries).map Prod.fst).Nodup := by
  induction scenarios with
  | nil => exact List.nodup_nil
  | cons scenario scenarios ih =>
      obtain ⟨hfresh, hrest⟩ := List.nodup_cons.mp h
      rw [List.flatMap_cons, List.map_append, List.nodup_append]
      refine ⟨?_, ih hrest, ?_⟩
      · simpa [Scenario.entries] using sourceName_ne_answerName scenario.name scenario.name
      · intro name hname other hother heq
        subst heq
        obtain ⟨⟨_, text⟩, hentry, rfl⟩ := List.mem_map.mp hother
        obtain ⟨later, hlater, hentry⟩ := List.mem_flatMap.mp hentry
        have hne : scenario.name ≠ later.name := fun heq =>
          hfresh (heq ▸ List.mem_map_of_mem hlater)
        simp only [Scenario.entries, List.map_cons, List.map_nil, List.mem_cons, List.not_mem_nil,
          or_false, Prod.mk.injEq] at hname hentry
        rcases hname with rfl | rfl <;> rcases hentry with ⟨hentry, -⟩ | ⟨hentry, -⟩
        · exact hne (sourceName_inj hentry)
        · exact sourceName_ne_answerName _ _ hentry
        · exact sourceName_ne_answerName _ _ hentry.symm
        · exact hne (answerName_inj hentry)

/-- A name among those of a suite's files is that of a source or of an answer. -/
lemma Suite.name_cases {suite : Suite} {entry : String × String} (h : entry ∈ suite.entries) :
    ∃ scenario ∈ suite.scenarios,
      entry.1 = sourceName scenario.name ∨ entry.1 = answerName scenario.name := by
  obtain ⟨scenario, hscenario, hentry⟩ := List.mem_flatMap.mp h
  simp only [Scenario.entries, List.mem_cons, List.not_mem_nil, or_false] at hentry
  exact ⟨scenario, hscenario, hentry.imp (congrArg Prod.fst) (congrArg Prod.fst)⟩

/-- **The names of a suite's files** are names of files and all different. -/
lemma Suite.fileNames_entries (suite : Suite)
    (hnames : ∀ scenario ∈ suite.scenarios, '/' ∉ scenario.name.toList) :
    FileNames suite.entries := by
  refine ⟨fun entry hentry => ?_, nodup_entries suite.names_nodup⟩
  obtain ⟨scenario, hscenario, hsource | hanswer⟩ := Suite.name_cases hentry
  · exact hsource ▸ isFileName_sourceName (hnames scenario hscenario)
  · exact hanswer ▸ isFileName_answerName (hnames scenario hscenario)

/-! ## Runs -/

/-- Files are written one list after the other. -/
lemma run_storeFiles_append (files more : List StoredFile) :
    ∀ disk : Disk, (storeFiles (files ++ more) : StateM Disk _).run disk =
      match (storeFiles files : StateM Disk _).run disk with
      | (some error, after) => (some error, after)
      | (none, after) => (storeFiles more : StateM Disk _).run after := by
  induction files with
  | nil => exact fun _ => rfl
  | cons file files ih =>
      intro disk
      rw [List.cons_append, run_storeFiles_cons, run_storeFiles_cons]
      cases disk.writeText file.path file.text with
      | error cause => rfl
      | ok changed => exact ih changed

/-- What a run does that writes scenarios, on the disk it finds. -/
lemma run_storeScenarios_cons (dir : Path) (scenario : Scenario) (scenarios : List Scenario)
    (disk : Disk) :
    (storeScenarios dir (scenario :: scenarios) : StateM Disk _).run disk =
      match (storeFiles (scenario.files dir) : StateM Disk _).run disk with
      | (some error, after) => (([], some error), after)
      | (none, after) =>
        match (storeScenarios dir scenarios : StateM Disk _).run after with
        | ((written, failure), final) => ((scenario :: written, failure), final) := by
  have hstore : (scenario.store dir : StateM Disk _).run disk =
      match (storeFiles (scenario.files dir) : StateM Disk _).run disk with
      | (some error, after) => (.error error, after)
      | (none, after) => (.ok (scenario.files dir).length, after) := by
    rw [Scenario.store, run_bind]
    rcases (storeFiles (scenario.files dir) : StateM Disk _).run disk with
      ⟨_ | error, after⟩ <;> rfl
  rw [storeScenarios, run_bind, hstore]
  rcases (storeFiles (scenario.files dir) : StateM Disk _).run disk with ⟨_ | error, after⟩ <;> rfl

/-- **Writing scenarios** is writing their files in order; without a failure, all of them have been
written. -/
lemma run_storeScenarios {dir : Path} {scenarios written : List Scenario} {failure : Option Error}
    {disk after : Disk}
    (h : (storeScenarios dir scenarios : StateM Disk _).run disk = ((written, failure), after)) :
    (storeFiles (scenarios.flatMap (Scenario.files dir)) : StateM Disk _).run disk =
        (failure, after) ∧
      (failure = none → written = scenarios) := by
  induction scenarios generalizing disk written with
  | nil =>
      cases h
      exact ⟨rfl, fun _ => rfl⟩
  | cons scenario scenarios ih =>
      rw [run_storeScenarios_cons] at h
      rw [List.flatMap_cons, run_storeFiles_append]
      rcases hfiles : (storeFiles (scenario.files dir) : StateM Disk _).run disk with
        ⟨_ | error, between⟩
      · rw [hfiles] at h
        dsimp only at h
        rcases hrest : (storeScenarios dir scenarios : StateM Disk _).run between with
          ⟨⟨rest, failure'⟩, after'⟩
        rw [hrest] at h
        cases h
        obtain ⟨hrun, hall⟩ := ih hrest
        exact ⟨hrun, fun hnone => by rw [hall hnone]⟩
      · rw [hfiles] at h
        cases h
        exact ⟨rfl, nofun⟩

/-- **Writing a suite** fails at the directory, or is writing the files of the suite once the
directory is there. -/
lemma run_store_cases {suite : Suite} {dir : Path} {disk after : Disk} {emission : Emission}
    (h : (suite.store dir : StateM Disk _).run disk = (emission, after)) :
    (∃ cause, (createDirectories dir : StateM Disk _).run disk = (.error cause, after) ∧
        emission = ⟨dir, [], some (.disk dir cause)⟩) ∨
      ∃ between, (createDirectories dir : StateM Disk _).run disk = (.ok (), between) ∧
        (storeFiles (suite.files dir) : StateM Disk _).run between = (emission.failure, after) ∧
        emission.dir = dir ∧ (emission.failure = none → emission.written = suite.scenarios) := by
  rw [Suite.store, run_bind] at h
  rcases hcreate : (createDirectories dir : StateM Disk _).run disk with ⟨cause | ⟨⟨⟩⟩, between⟩
  · rw [hcreate] at h
    cases h
    exact .inl ⟨cause, rfl, rfl⟩
  · rw [hcreate] at h
    dsimp only at h
    rw [run_bind] at h
    rcases hstore : (storeScenarios dir suite.scenarios : StateM Disk _).run between with
      ⟨⟨written, failure⟩, after'⟩
    rw [hstore] at h
    cases h
    exact .inr ⟨between, rfl, (run_storeScenarios hstore).1, rfl, (run_storeScenarios hstore).2⟩

/-- **Writing a suite to a directory that is there** is complete exactly if there is room for every
file. -/
lemma failure_store_eq_none_iff {suite : Suite} {dir : Path} {disk : Disk}
    (hnames : FileNames suite.entries) (hdirectory : disk.isDirectory dir = true) :
    ((suite.store dir : StateM Disk _).run disk).1.failure = none ↔
      ∀ entry ∈ suite.entries, ∃ here, disk.Room dir here entry.1 := by
  have hcreate := run_createDirectories_of_isDirectory hdirectory
  rw [← failure_storeFiles_eq_none_iff hnames, ← suite.files_eq]
  rcases hrun : (suite.store dir : StateM Disk _).run disk with ⟨emission, after⟩
  rcases run_store_cases hrun with ⟨cause, hfailed, -⟩ | ⟨between, hcreated, hfiles, -, -⟩
  · rw [hcreate] at hfailed
    cases hfailed
  · rw [hcreate] at hcreated
    cases hcreated
    rw [hfiles]

/-- **A complete emission** creates the directory, then stores all texts in it and nothing else. -/
lemma exists_storesAll_of_store {suite : Suite} {dir : Path} {before after : Disk}
    {emission : Emission} (hnames : FileNames suite.entries)
    (hrun : (suite.store dir : StateM Disk _).run before = (emission, after))
    (hcomplete : emission.failure = none) :
    ∃ between, AddsDirectories dir.ancestors before between ∧
      StoresAll dir suite.entries between after := by
  rcases run_store_cases hrun with ⟨cause, -, rfl⟩ | ⟨between, hcreate, hfiles, -, -⟩
  · cases hcomplete
  · rw [suite.files_eq, hcomplete] at hfiles
    exact ⟨between, addsDirectories_of_createDirectories hcreate, storesAll_of_run hnames hfiles⟩

end Conformance
