import Conformance.Proofs.Fixture.RoundTrip

/-!
# Suites in another order

Two suites with the same scenarios in different orders do the same to a disk.

* **Two writes** (`Disk.Room.put_comm`, `writeText_comm`): under different names of one directory it
  does not matter which comes first, neither to whether both succeed nor to what they leave behind.
* **Runs** (`run_storeFiles_of_perm`): hence texts under different names can be written in any
  order. It is the runs without a failure that this holds of; one that fails leaves behind what came
  before the failure.
* **Main statement** (`interchangeable_of_perm`): writing a suite is complete in one order exactly
  if it is in any other, with one summary and on one disk, and comparing with it finds the same
  deviations up to their order.
-/

namespace Conformance

open Disk

/-! ## Two writes -/

namespace Disk

variable {disk : Disk} {dir : Path} {here : Location} {name other : String}

/-- Files with different names can be put in either order. -/
lemma Room.put_comm (room : disk.Room dir here name) (room' : disk.Room dir here other)
    (hne : other ≠ name) (text text' : String) :
    (room.room_put text hne room').put text' = (room'.room_put text' hne.symm room).put text := by
  refine ext_entryAt? rfl fun location => ?_
  simp only [Room.entryAt?_put]
  by_cases hfirst : location = name :: here
  · have hsecond : location ≠ other :: here := fun heq =>
      hne (List.cons.inj (heq.symm.trans hfirst)).1
    rw [if_neg hsecond, if_pos hfirst, if_pos hfirst]
  · rw [if_neg hfirst, if_neg hfirst]

end Disk

/-- **Two writes** under different names succeed in either order, and leave one disk. -/
lemma writeText_comm {dir : Path} {first second : String × String} {disk between after : Disk}
    (hfirst : IsFileName first.1) (hsecond : IsFileName second.1) (hne : second.1 ≠ first.1)
    (h : disk.writeText (dir.join ⟨first.1⟩) first.2 = .ok between)
    (h' : between.writeText (dir.join ⟨second.1⟩) second.2 = .ok after) :
    ∃ other, disk.writeText (dir.join ⟨second.1⟩) second.2 = .ok other ∧
      other.writeText (dir.join ⟨first.1⟩) first.2 = .ok after := by
  obtain ⟨here, room, rfl⟩ := (writeText_join_eq_ok_iff hfirst).mp h
  obtain ⟨there, hroom, rfl⟩ := (writeText_join_eq_ok_iff hsecond).mp h'
  obtain ⟨rfl, room'⟩ := room.of_room_put hne hroom
  refine ⟨room'.put second.2, (writeText_join_eq_ok_iff hsecond).mpr ⟨_, room', rfl⟩, ?_⟩
  exact (writeText_join_eq_ok_iff hfirst).mpr
    ⟨_, room'.room_put second.2 hne.symm room, room.put_comm room' hne first.2 second.2⟩

/-! ## Runs -/

/-- A run without a failure writes the first file and goes on without one. -/
lemma run_storeFiles_cons_eq_none_iff {file : StoredFile} {files : List StoredFile}
    {disk after : Disk} :
    (storeFiles (file :: files) : StateM Disk _).run disk = (none, after) ↔
      ∃ between, disk.writeText file.path file.text = .ok between ∧
        (storeFiles files : StateM Disk _).run between = (none, after) := by
  rw [run_storeFiles_cons]
  cases disk.writeText file.path file.text with
  | error cause =>
      refine ⟨fun h => absurd (Prod.mk.inj h).1 (Option.some_ne_none _), ?_⟩
      rintro ⟨between, hwrite, -⟩
      cases hwrite
  | ok changed => simp

/-- Names of files in another order. -/
lemma FileNames.of_perm {entries others : List (String × String)} (h : FileNames entries)
    (hperm : entries.Perm others) : FileNames others :=
  ⟨fun entry hentry => h.isFileName entry (hperm.mem_iff.mpr hentry),
    (hperm.map Prod.fst).nodup_iff.mp h.nodup⟩

/-- **Runs** without a failure are as good in any order. -/
lemma run_storeFiles_of_perm {dir : Path} {entries others : List (String × String)}
    (hperm : entries.Perm others) (hnames : FileNames entries) {disk after : Disk}
    (h : (storeFiles (entries.map (entryFile dir)) : StateM Disk _).run disk = (none, after)) :
    (storeFiles (others.map (entryFile dir)) : StateM Disk _).run disk = (none, after) := by
  induction hperm generalizing disk with
  | nil => exact h
  | cons entry hperm ih =>
      rw [List.map_cons, run_storeFiles_cons_eq_none_iff] at h ⊢
      obtain ⟨between, hwrite, hrest⟩ := h
      exact ⟨between, hwrite, ih hnames.tail hrest⟩
  | swap first second rest =>
      rw [List.map_cons, List.map_cons, run_storeFiles_cons_eq_none_iff] at h ⊢
      obtain ⟨between, hwrite, hrest⟩ := h
      obtain ⟨final, hwrite', hrest⟩ := run_storeFiles_cons_eq_none_iff.mp hrest
      have hne : first.1 ≠ second.1 := by
        have hfresh := (List.nodup_cons.mp hnames.nodup).1
        rintro heq
        exact hfresh (heq ▸ List.mem_cons_self)
      obtain ⟨other, hfirst, hsecond⟩ := writeText_comm
        (hnames.isFileName second List.mem_cons_self) (hnames.tail.isFileName first
          List.mem_cons_self) hne hwrite hwrite'
      exact ⟨other, hfirst, run_storeFiles_cons_eq_none_iff.mpr ⟨final, hsecond, hrest⟩⟩
  | trans hperm _ ih ih' => exact ih' (hnames.of_perm hperm) (ih hnames h)

/-! ## Suites -/

/-- What two suites have in common on a disk if they do the same to a directory. -/
structure Suite.Interchangeable (first second : Suite) (dir : Path) (disk : Disk) : Prop where
  /-- One is written completely exactly if the other is, with one summary and on one disk. -/
  store_iff : ∀ (summary : EmissionSummary) (after : Disk),
    (∃ emission, (first.store dir : StateM Disk _).run disk = (emission, after) ∧
        emission.summary = .ok summary) ↔
      ∃ emission, (second.store dir : StateM Disk _).run disk = (emission, after) ∧
        emission.summary = .ok summary
  /-- One is compared completely exactly if the other is. -/
  inspect_iff :
    (∃ deviations, ((first.inspect dir : StateM Disk _).run disk).1.result = .ok deviations) ↔
      ∃ deviations, ((second.inspect dir : StateM Disk _).run disk).1.result = .ok deviations
  /-- Then the deviations are the same up to their order. -/
  perm : ∀ deviations others : List Deviation,
    ((first.inspect dir : StateM Disk _).run disk).1.result = .ok deviations →
      ((second.inspect dir : StateM Disk _).run disk).1.result = .ok others →
        deviations.Perm others

/-- A suite that is written completely is so in another order. -/
lemma exists_store_of_perm {first second : Suite} (hperm : first.scenarios.Perm second.scenarios)
    (hnames : ∀ scenario ∈ first.scenarios, '/' ∉ scenario.name.toList) {dir : Path}
    {disk after : Disk} {summary : EmissionSummary}
    (h : ∃ emission, (first.store dir : StateM Disk _).run disk = (emission, after) ∧
      emission.summary = .ok summary) :
    ∃ emission, (second.store dir : StateM Disk _).run disk = (emission, after) ∧
      emission.summary = .ok summary := by
  obtain ⟨emission, hrun, hsummary⟩ := h
  obtain ⟨hnone, rfl⟩ := Emission.summary_eq_ok_iff.mp hsummary
  rcases run_store_cases hrun with ⟨cause, -, rfl⟩ | ⟨between, hcreate, hfiles, hdir, hall⟩
  · cases hnone
  rw [first.files_eq, hnone] at hfiles
  have hothers := run_storeFiles_of_perm (hperm.flatMap_right Scenario.entries)
    (first.fileNames_entries hnames) hfiles
  rcases hrun' : (second.store dir : StateM Disk _).run disk with ⟨emission', after'⟩
  rcases run_store_cases hrun' with
    ⟨cause, hfailed, -⟩ | ⟨between', hcreate', hfiles', hdir', hall'⟩
  · rw [hcreate] at hfailed
    cases hfailed
  rw [hcreate] at hcreate'
  cases hcreate'
  rw [second.files_eq] at hfiles'
  obtain ⟨hnone', rfl⟩ := Prod.mk.inj (hothers.symm.trans hfiles')
  refine ⟨emission', rfl, Emission.summary_eq_ok_iff.mpr ⟨hnone'.symm, ?_⟩⟩
  rw [hdir, hdir', hall hnone, hall' hnone'.symm, hperm.length_eq]

/-- **The order of definition does not matter.** Two suites with the same scenarios, whose names
hold no slash, do the same to every directory of every disk, up to the order of what they report. -/
theorem interchangeable_of_perm {first second : Suite}
    (hperm : first.scenarios.Perm second.scenarios)
    (hnames : ∀ scenario ∈ first.scenarios, '/' ∉ scenario.name.toList) (dir : Path) (disk : Disk) :
    first.Interchangeable second dir disk := by
  have hnames' : ∀ scenario ∈ second.scenarios, '/' ∉ scenario.name.toList :=
    fun scenario hscenario => hnames scenario (hperm.mem_iff.mpr hscenario)
  have hfiles : (first.files dir).Perm (second.files dir) := hperm.flatMap_right _
  have hcomparable : (∀ file ∈ first.files dir, disk.Comparable file) ↔
      ∀ file ∈ second.files dir, disk.Comparable file :=
    forall_congr' fun file => imp_congr_left hfiles.mem_iff
  refine ⟨fun summary after => ⟨exists_store_of_perm hperm hnames,
    exists_store_of_perm hperm.symm hnames'⟩, ?_, ?_⟩
  · simp only [Suite.inspect, result_inspectFiles_eq_ok_iff, hcomparable, exists_and_left,
      exists_eq, and_true]
  · intro deviations others hfirst hsecond
    rw [Suite.inspect, result_inspectFiles_eq_ok_iff] at hfirst hsecond
    rw [hfirst.2, hsecond.2]
    exact hfiles.filterMap disk.deviation?

/-- The suite of two programs in its other order. -/
def Suite.pairReversed : Suite where
  scenarios := [⟨"b", "", .accepted ⟨[], []⟩⟩, ⟨"a", "int main() {}\n", .accepted ⟨[], []⟩⟩]
  names_nodup := by decide

/-- Two programs in either order are the same to a directory with a stale file. -/
theorem interchangeable_of_perm_cluttered :
    Suite.pair.scenarios.Perm Suite.pairReversed.scenarios ∧
      (∀ scenario ∈ Suite.pair.scenarios, '/' ∉ scenario.name.toList) ∧
      Suite.pair.Interchangeable .pairReversed ⟨"old"⟩ .cluttered := by
  have hperm : Suite.pair.scenarios.Perm Suite.pairReversed.scenarios := List.Perm.swap _ _ _
  have hnames : ∀ scenario ∈ Suite.pair.scenarios, '/' ∉ scenario.name.toList := by decide
  exact ⟨hperm, hnames, interchangeable_of_perm hperm hnames ⟨"old"⟩ .cluttered⟩

end Conformance
