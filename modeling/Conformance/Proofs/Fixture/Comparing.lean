import Conformance.Fixture.Inspection
import Conformance.Proofs.Disk.Directories

/-!
# What comparing files finds

A run that compares files with a disk goes on as long as files can be compared, that is, are read as
text or are not found.

* **One file** (`Disk.deviation?`, `Disk.Comparable`): what comparing it finds, and whether the run
  goes on after it.
* **Runs** (`run_inspectFiles_append`): files that can be compared contribute their deviations, and
  the rest is compared as if it stood alone. Hence the two ways in which a run ends,
  `run_inspectFiles_of_comparable` and `run_inspectFiles_of_failure`; there is no third
  (`comparable_or_failure`).
* **Results** (`result_inspectFiles_eq_ok_iff`): the deviations are found exactly if all files can
  be compared; otherwise the first obstacle is the error (`result_inspectFiles_eq_error_iff`).
-/

namespace Conformance

open Disk

/-! ## One file -/

/-- What is found of a file: it is missing where its path is not found, and differs where another
text is read. -/
def Disk.deviation? (disk : Disk) (file : StoredFile) : Option Deviation :=
  match disk.readText file.path with
  | .ok text => if text = file.text then none else some (.differs file.path)
  | .error cause => if cause = .notFound then some (.missing file.path) else none

/-- Whether a file can be compared: its path is read as text or not found. -/
def Disk.Comparable (disk : Disk) (file : StoredFile) : Prop :=
  ∀ cause, disk.readText file.path = .error cause → cause = .notFound

/-- What a run does that compares files, on the disk it finds. -/
lemma run_inspectFiles_cons (file : StoredFile) (files : List StoredFile) (disk : Disk) :
    (inspectFiles (file :: files) : StateM Disk _).run disk =
      match disk.readText file.path with
      | .ok text =>
        let (rest, after) := (inspectFiles files : StateM Disk _).run disk
        (if text = file.text then rest else rest.after (.differs file.path), after)
      | .error cause =>
        if cause = .notFound then
          let (rest, after) := (inspectFiles files : StateM Disk _).run disk
          (rest.after (.missing file.path), after)
        else (⟨[], some (.disk file.path cause)⟩, disk) := by
  have hread : (Storage.readText file.path : StateM Disk _).run disk =
      (disk.readText file.path, disk) := rfl
  rw [inspectFiles, run_bind, hread]
  cases disk.readText file.path with
  | ok text => rfl
  | error cause =>
      by_cases hcause : cause = .notFound
      · simp only [if_pos hcause]
        rfl
      · simp only [if_neg hcause]
        rfl

/-! ## Runs -/

/-- A comparison with deviations before what it found. -/
def Inspection.afterAll (inspection : Inspection) (deviations : List Deviation) : Inspection :=
  { inspection with deviations := deviations ++ inspection.deviations }

/-- **Files that can be compared** contribute their deviations, and the run goes on. -/
lemma run_inspectFiles_append {disk : Disk} {files : List StoredFile}
    (h : ∀ file ∈ files, disk.Comparable file) (more : List StoredFile) :
    (inspectFiles (files ++ more) : StateM Disk _).run disk =
      (((inspectFiles more : StateM Disk _).run disk).1.afterAll (files.filterMap disk.deviation?),
        ((inspectFiles more : StateM Disk _).run disk).2) := by
  induction files with
  | nil => rfl
  | cons file files ih =>
      obtain ⟨hfile, hfiles⟩ := List.forall_mem_cons.mp h
      rw [List.cons_append, run_inspectFiles_cons, ih hfiles, List.filterMap_cons]
      cases hread : disk.readText file.path with
      | ok text => by_cases htext : text = file.text <;> simp [deviation?, hread, htext,
          Inspection.afterAll, Inspection.after]
      | error cause => simp [deviation?, hread, hfile cause hread, Inspection.afterAll,
          Inspection.after]

/-- A run over files that can all be compared ends with their deviations. -/
lemma run_inspectFiles_of_comparable {disk : Disk} {files : List StoredFile}
    (h : ∀ file ∈ files, disk.Comparable file) :
    (inspectFiles files : StateM Disk _).run disk =
      (⟨files.filterMap disk.deviation?, none⟩, disk) := by
  have hnone : (inspectFiles [] : StateM Disk _).run disk = (⟨[], none⟩, disk) := rfl
  have hrun := run_inspectFiles_append h []
  rw [List.append_nil, hnone] at hrun
  simpa [Inspection.afterAll] using hrun

/-- A run ends at the first file that can neither be read as text nor is not found. -/
lemma run_inspectFiles_of_failure {disk : Disk} {before : List StoredFile} {file : StoredFile}
    {cause : IoError} (hbefore : ∀ earlier ∈ before, disk.Comparable earlier)
    (hread : disk.readText file.path = .error cause) (hcause : cause ≠ .notFound)
    (after : List StoredFile) :
    (inspectFiles (before ++ file :: after) : StateM Disk _).run disk =
      (⟨before.filterMap disk.deviation?, some (.disk file.path cause)⟩, disk) := by
  rw [run_inspectFiles_append hbefore, run_inspectFiles_cons, hread]
  simp only [if_neg hcause, Inspection.afterAll, List.append_nil]

/-- Files can all be compared, or there is a first one that cannot. -/
lemma comparable_or_failure (disk : Disk) (files : List StoredFile) :
    (∀ file ∈ files, disk.Comparable file) ∨
      ∃ before file after cause, files = before ++ file :: after ∧
        (∀ earlier ∈ before, disk.Comparable earlier) ∧
          disk.readText file.path = .error cause ∧ cause ≠ .notFound := by
  induction files with
  | nil => exact .inl nofun
  | cons file files ih =>
      by_cases hfile : disk.Comparable file
      · rcases ih with hfiles | ⟨before, failing, after, cause, rfl, hbefore, hread, hcause⟩
        · exact .inl (List.forall_mem_cons.mpr ⟨hfile, hfiles⟩)
        · exact .inr ⟨file :: before, failing, after, cause, rfl,
            List.forall_mem_cons.mpr ⟨hfile, hbefore⟩, hread, hcause⟩
      · obtain ⟨cause, hfile⟩ := Classical.not_forall.mp hfile
        obtain ⟨hread, hcause⟩ := Classical.not_imp.mp hfile
        exact .inr ⟨[], file, files, cause, rfl, nofun, hread, hcause⟩

/-! ## Results -/

/-- What ends a comparison at a file: reading it fails for another reason than that it is not
found. -/
def Disk.obstacle? (disk : Disk) (file : StoredFile) : Option Error :=
  match disk.readText file.path with
  | .ok _ => none
  | .error cause => if cause = .notFound then none else some (.disk file.path cause)

/-- A file can be compared exactly if there is no obstacle. -/
lemma Disk.obstacle?_eq_none_iff {disk : Disk} {file : StoredFile} :
    disk.obstacle? file = none ↔ disk.Comparable file := by
  unfold obstacle? Comparable
  cases disk.readText file.path <;> simp

/-- **The result of a run** is its first obstacle, or all deviations where there is none. -/
lemma result_inspectFiles (files : List StoredFile) (disk : Disk) :
    ((inspectFiles files : StateM Disk _).run disk).1.result =
      match files.findSome? disk.obstacle? with
      | some error => .error error
      | none => .ok (files.filterMap disk.deviation?) := by
  rcases comparable_or_failure disk files with
    hfiles | ⟨before, file, after, cause, rfl, hbefore, hread, hcause⟩
  · have hnone : files.findSome? disk.obstacle? = none :=
      List.findSome?_eq_none_iff.mpr fun file hfile => obstacle?_eq_none_iff.mpr (hfiles file hfile)
    rw [run_inspectFiles_of_comparable hfiles, hnone]
    rfl
  · have hnone : before.findSome? disk.obstacle? = none :=
      List.findSome?_eq_none_iff.mpr fun file hfile =>
        obstacle?_eq_none_iff.mpr (hbefore file hfile)
    have hfile : disk.obstacle? file = some (.disk file.path cause) := by
      simp only [obstacle?, hread, if_neg hcause]
    rw [run_inspectFiles_of_failure hbefore hread hcause, List.findSome?_append, hnone,
      List.findSome?_cons, hfile]
    rfl

/-- A run that compares files changes nothing. -/
lemma run_inspectFiles_snd (files : List StoredFile) (disk : Disk) :
    ((inspectFiles files : StateM Disk _).run disk).2 = disk := by
  rcases comparable_or_failure disk files with
    hfiles | ⟨before, file, after, cause, rfl, hbefore, hread, hcause⟩
  · rw [run_inspectFiles_of_comparable hfiles]
  · rw [run_inspectFiles_of_failure hbefore hread hcause]

/-- A run is complete exactly if all files can be compared, and then has found their deviations. -/
lemma result_inspectFiles_eq_ok_iff {files : List StoredFile} {disk : Disk}
    {deviations : List Deviation} :
    ((inspectFiles files : StateM Disk _).run disk).1.result = .ok deviations ↔
      (∀ file ∈ files, disk.Comparable file) ∧ deviations = files.filterMap disk.deviation? := by
  have hnone : files.findSome? disk.obstacle? = none ↔ ∀ file ∈ files, disk.Comparable file := by
    simp only [List.findSome?_eq_none_iff, obstacle?_eq_none_iff]
  rw [result_inspectFiles, ← hnone]
  cases files.findSome? disk.obstacle? <;> simp [eq_comm]

/-- A run that is not complete has its first obstacle as the error. -/
lemma result_inspectFiles_eq_error_iff {files : List StoredFile} {disk : Disk} {error : Error} :
    ((inspectFiles files : StateM Disk _).run disk).1.result = .error error ↔
      files.findSome? disk.obstacle? = some error := by
  rw [result_inspectFiles]
  cases files.findSome? disk.obstacle? <;> simp

end Conformance
