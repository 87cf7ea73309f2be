import Conformance.Proofs.Fixture.Entries

/-!
# Writing a suite and comparing with it

What holds after a suite has been written to a directory, whatever was on the disk before.

* **What is left behind** (`CleanEmission`): all texts of the suite read back, a comparison finds
  nothing, a second emission changes nothing, and the rest of the disk is as it was, but for the
  directory and those around it.
* **Main statement** (`cleanEmission_of_store`): every complete emission of a suite whose names hold
  no slash is clean.
-/

namespace Conformance

open Disk

/-- What a complete emission of a suite to a directory leaves behind. -/
structure CleanEmission (suite : Suite) (dir : Path) (summary : EmissionSummary)
    (before after : Disk) : Prop where
  /-- The summary counts the scenarios, and two files for each. -/
  summary_eq : summary = ⟨dir, suite.size, 2 * suite.size⟩
  /-- The source files hold the stored sources. -/
  readText_source : ∀ scenario ∈ suite.scenarios,
    after.readText (sourcePath dir scenario.name) = .ok scenario.sourceText
  /-- The answer files hold the stored answers. -/
  readText_answer : ∀ scenario ∈ suite.scenarios,
    after.readText (answerPath dir scenario.name) = .ok scenario.answerText
  /-- A comparison is complete, finds no deviation and changes nothing. -/
  inspect_eq : ∃ inspection, (suite.inspect dir : StateM Disk _).run after = (inspection, after) ∧
    inspection.result = .ok []
  /-- A second emission is complete, has the same summary and changes nothing. -/
  store_eq : ∃ emission, (suite.store dir : StateM Disk _).run after = (emission, after) ∧
    emission.summary = .ok summary
  /-- The working directory is the same. -/
  current_eq : after.current = before.current
  /-- What is no file of the suite is as it was, or is a new directory that the path of the
  directory leads through. -/
  frame : ∀ location, (∀ file ∈ suite.files dir, after.resolve file.path ≠ .ok location) →
    after.entryAt? location = before.entryAt? location ∨
      before.entryAt? location = none ∧ after.entryAt? location = some .directory ∧
        ∃ path ∈ dir.ancestors, after.resolve path = .ok location

/-- Every scenario has two files. -/
lemma length_flatMap_files (dir : Path) (scenarios : List Scenario) :
    (scenarios.flatMap (Scenario.files dir)).length = 2 * scenarios.length := by
  induction scenarios with
  | nil => rfl
  | cons scenario scenarios ih =>
      rw [List.flatMap_cons, List.length_append, ih, List.length_cons]
      simp only [Scenario.files, List.length_cons, List.length_nil]
      omega

/-- The summary of an emission without a failure. -/
lemma Emission.summary_eq_ok_iff {emission : Emission} {summary : EmissionSummary} :
    emission.summary = .ok summary ↔
      emission.failure = none ∧
        summary = ⟨emission.dir, emission.written.length, 2 * emission.written.length⟩ := by
  unfold Emission.summary
  rw [length_flatMap_files]
  cases emission.failure <;> simp [eq_comm]

/-- The files of a scenario are among the entries of its suite. -/
lemma Suite.mem_entries {suite : Suite} {scenario : Scenario} (h : scenario ∈ suite.scenarios) :
    (sourceName scenario.name, scenario.sourceText) ∈ suite.entries ∧
      (answerName scenario.name, scenario.answerText) ∈ suite.entries :=
  ⟨List.mem_flatMap.mpr ⟨scenario, h, by simp [Scenario.entries]⟩,
    List.mem_flatMap.mpr ⟨scenario, h, by simp [Scenario.entries]⟩⟩

/-- A suite is written completely where its directory and all its texts are. -/
lemma run_store_of_stored {suite : Suite} {dir : Path} {disk : Disk}
    (hnames : FileNames suite.entries)
    (hcreate : (createDirectories dir : StateM Disk _).run disk = (.ok (), disk))
    (hstored : ∀ entry ∈ suite.entries, ∃ here, disk.Stored dir here entry.1 entry.2) :
    ∃ emission, (suite.store dir : StateM Disk _).run disk = (emission, disk) ∧
      emission.summary = .ok ⟨dir, suite.size, 2 * suite.size⟩ := by
  rcases hrun : (suite.store dir : StateM Disk _).run disk with ⟨emission, after⟩
  rcases run_store_cases hrun with ⟨cause, hfailed, -⟩ | ⟨between, hcreated, hfiles, hdir, hall⟩
  · rw [hcreate] at hfailed
    cases hfailed
  · rw [hcreate] at hcreated
    cases hcreated
    rw [suite.files_eq, run_storeFiles_of_stored hnames.isFileName hstored] at hfiles
    obtain ⟨hnone, rfl⟩ := Prod.mk.inj hfiles
    refine ⟨emission, rfl, Emission.summary_eq_ok_iff.mpr ⟨hnone.symm, ?_⟩⟩
    rw [hdir, hall hnone.symm, Suite.size]

/-- **Every complete emission is clean.** Whatever is on a disk, if a suite whose names hold no
slash is written to a directory without a failure, all its texts read back, comparing finds nothing,
writing it again changes nothing, and nothing else on the disk has changed. -/
theorem cleanEmission_of_store (suite : Suite) (dir : Path) {before after : Disk}
    {emission : Emission} {summary : EmissionSummary}
    (hnames : ∀ scenario ∈ suite.scenarios, '/' ∉ scenario.name.toList)
    (hrun : (suite.store dir : StateM Disk _).run before = (emission, after))
    (hsummary : emission.summary = .ok summary) :
    CleanEmission suite dir summary before after := by
  have hentries := suite.fileNames_entries hnames
  obtain ⟨hnone, rfl⟩ := Emission.summary_eq_ok_iff.mp hsummary
  rcases run_store_cases hrun with ⟨cause, -, rfl⟩ | ⟨between, hcreate, hfiles, hdir, hall⟩
  · cases hnone
  have hdirectories : AddsDirectories dir.ancestors before between := by
    have hadds := addsDirectories_of_run dir.ancestors before
    change (createOutward dir.ancestors : StateM Disk _).run before = _ at hcreate
    rwa [hcreate] at hadds
  have hstores : StoresAll dir suite.entries between after := by
    rw [suite.files_eq, hnone] at hfiles
    exact storesAll_of_run hentries hfiles
  have hsize : (⟨emission.dir, emission.written.length, 2 * emission.written.length⟩ :
      EmissionSummary) = ⟨dir, suite.size, 2 * suite.size⟩ := by
    rw [hdir, hall hnone, Suite.size]
  have hread : ∀ name text, (name, text) ∈ suite.entries →
      after.readText (dir.join ⟨name⟩) = .ok text := by
    intro name text hentry
    obtain ⟨here, hstored⟩ := hstores.stored (name, text) hentry
    exact hstored.readText_eq (hentries.isFileName (name, text) hentry)
  refine
    { summary_eq := hsize
      readText_source := ?_
      readText_answer := ?_
      inspect_eq := ?_
      store_eq := ?_
      current_eq := hstores.grows.current_eq.trans hdirectories.current_eq
      frame := ?_ }
  · intro scenario hscenario
    rw [sourcePath_eq]
    exact hread _ _ (Suite.mem_entries hscenario).1
  · intro scenario hscenario
    rw [answerPath_eq]
    exact hread _ _ (Suite.mem_entries hscenario).2
  · refine ⟨⟨[], none⟩, ?_, rfl⟩
    rw [Suite.inspect, suite.files_eq]
    exact run_inspectFiles_of_stored hentries.isFileName hstores.stored
  · rw [hsize]
    exact run_store_of_stored hentries (run_createDirectories_again hcreate hstores.grows)
      hstores.stored
  · intro location hlocation
    have hsame : after.entryAt? location = between.entryAt? location := by
      refine hstores.frame location fun entry hentry => hlocation (entryFile dir entry) ?_
      rw [suite.files_eq]
      exact List.mem_map_of_mem hentry
    rcases hdirectories.entry_eq_or_new location with hkept | ⟨habsent, hnew, path, hpath, hresolve⟩
    · exact .inl (hsame.trans hkept)
    · exact .inr ⟨habsent, hsame.trans hnew, path, hpath, hstores.grows.resolve_eq hresolve⟩

/-- A disk with a directory in which a stale source file lies beside another directory. -/
def Disk.cluttered : Disk :=
  let outer := Disk.bare.put ["work"] "old" .directory (by decide +kernel) (by decide +kernel)
  let stale := outer.put ["old", "work"] "a.in" (.file "stale".toUTF8) (by decide +kernel)
    (by decide +kernel)
  stale.put ["old", "work"] "a" .directory (by decide +kernel) (by decide +kernel)

/-- A suite of two programs without functions. -/
def Suite.pair : Suite where
  scenarios := [⟨"a", "int main() {}\n", .accepted ⟨[], []⟩⟩, ⟨"b", "", .accepted ⟨[], []⟩⟩]
  names_nodup := by decide

/-- A suite is written into a directory with a stale file. -/
theorem cleanEmission_of_store_cluttered :
    (∀ scenario ∈ Suite.pair.scenarios, '/' ∉ scenario.name.toList) ∧
      ((Suite.pair.store ⟨"old"⟩ : StateM Disk _).run .cluttered).1.summary =
        .ok ⟨⟨"old"⟩, 2, 4⟩ ∧
      CleanEmission .pair ⟨"old"⟩ ⟨⟨"old"⟩, 2, 4⟩ .cluttered
        ((Suite.pair.store ⟨"old"⟩ : StateM Disk _).run .cluttered).2 := by
  have hnames : ∀ scenario ∈ Suite.pair.scenarios, '/' ∉ scenario.name.toList := by decide
  have hsummary : ((Suite.pair.store ⟨"old"⟩ : StateM Disk _).run .cluttered).1.summary =
      .ok ⟨⟨"old"⟩, 2, 4⟩ := by decide +kernel
  exact ⟨hnames, hsummary,
    cleanEmission_of_store .pair ⟨"old"⟩ hnames (Prod.eta _).symm hsummary⟩

end Conformance
