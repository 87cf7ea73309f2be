import Conformance.Proofs.CommandLine.Performing
import Conformance.Proofs.Fixture.RoundTrip
import Conformance.Proofs.Disk.Straight

/-!
# The status of a check

What a run that checks a directory prints and with which status it ends, whatever is on the disk.

* **Files** (`checkedFiles`): those of the standard suite in the directory that is asked for, or
  else in that of the settings.
* **Three endings**: the first failure, in the settings or at a file that can be neither read as
  text nor said to be missing (`Disk.firstFailure?`, `perform_of_firstFailure`); all files up to
  date (`perform_of_upToDate`); or some of them not (`perform_of_outOfDate`).
* **Main statement** (`run_check_verdict`): the status is zero exactly if the settings load and
  every file holds the bytes that generating leaves there, and in each ending the run prints what
  `CheckVerdict` says and changes nothing.
-/

namespace Conformance

open Disk

/-- A file that can be compared is not reported exactly if it holds the bytes of its text. -/
lemma Disk.Comparable.deviation?_eq_none_iff {disk : Disk} {file : StoredFile}
    (h : disk.Comparable file) :
    disk.deviation? file = none ↔ disk.readBytes file.path = .ok file.text.toUTF8 := by
  rw [← readText_eq_ok_iff, deviation?]
  cases hread : disk.readText file.path with
  | ok text => by_cases htext : text = file.text <;> simp [htext]
  | error cause => simp [h cause hread]

/-- A file that holds the bytes of its text can be compared. -/
lemma Disk.comparable_of_readBytes {disk : Disk} {file : StoredFile}
    (h : disk.readBytes file.path = .ok file.text.toUTF8) : disk.Comparable file := by
  intro cause hcause
  rw [readText_eq_ok_iff.mpr h] at hcause
  cases hcause

namespace CommandLine

/-- The files that a check compares. -/
def checkedFiles (settings : Settings) (dir : Option Path) : List StoredFile :=
  Suite.standard.files (dir.getD settings.outputDir)

/-- What a check finds if it can compare all its files. -/
def checkedDeviations (settings : Settings) (dir : Option Path) (disk : Disk) : List Deviation :=
  (checkedFiles settings dir).filterMap disk.deviation?

/-- The names of the standard scenarios hold neither slashes nor NULs. -/
lemma notMem_standard :
    ∀ scenario ∈ Suite.standard.scenarios,
      '/' ∉ scenario.name.toList ∧ '\x00' ∉ scenario.name.toList := by
  decide +kernel

/-- The names of the standard scenarios hold no slash. -/
lemma slash_notMem_standard :
    ∀ scenario ∈ Suite.standard.scenarios, '/' ∉ scenario.name.toList :=
  fun scenario hscenario => (notMem_standard scenario hscenario).1

/-- **Generating** leaves the bytes of each text in its file. -/
lemma readBytes_of_store {suite : Suite} {dir : Path} {before after : Disk} {emission : Emission}
    (hnames : ∀ scenario ∈ suite.scenarios, '/' ∉ scenario.name.toList)
    (hrun : (suite.store dir : StateM Disk _).run before = (emission, after))
    (hcomplete : emission.failure = none) :
    ∀ file ∈ suite.files dir, after.readBytes file.path = .ok file.text.toUTF8 := by
  have hentries := suite.fileNames_entries hnames
  obtain ⟨between, -, hstores⟩ := exists_storesAll_of_store hentries hrun hcomplete
  intro file hfile
  rw [suite.files_eq] at hfile
  obtain ⟨entry, hentry, rfl⟩ := List.mem_map.mp hfile
  obtain ⟨here, hstored⟩ := hstores.stored entry hentry
  exact readText_eq_ok_iff.mp (hstored.readText_eq (hentries.isFileName entry hentry))

end CommandLine

open CommandLine

section endings

variable [Toml.Wording]

/-- What ends a check early: an error in the settings, or else the first file that can be neither
read as text nor said to be missing. -/
def Disk.firstFailure? (disk : Disk) (config dir : Option Path) : Option Error :=
  match disk.settings config with
  | .error error => some error
  | .ok settings => (checkedFiles settings dir).findSome? disk.obstacle?

namespace CommandLine

variable {invocation : Invocation} {dir : Option Path} {disk : Disk} {settings : Settings}

/-! ## Three endings -/

/-- What a check does once its settings are loaded. -/
lemma perform_check (hcommand : invocation.command = .check dir)
    (hsettings : disk.settings invocation.config = .ok settings) {inspection : Inspection}
    (hinspect : ((inspectFiles (checkedFiles settings dir) : StateM Disk _).run disk).1 =
      inspection) :
    (perform invocation : StateM Disk _).run disk =
      ((ofInspection (dir.getD settings.outputDir) inspection).logged
        (invocation.logLevel.getD settings.logLevel) inspection.events, disk) := by
  have hrun : (Suite.standard.inspect (dir.getD settings.outputDir) : StateM Disk _).run disk =
      (inspection, disk) := by
    rw [← hinspect]
    exact Prod.ext rfl (run_inspectFiles_snd _ disk)
  simp only [run_perform, hsettings, hcommand, run_execute_check, hrun]

/-- **The first failure** is all that a check says on its own account. -/
lemma perform_of_firstFailure (hcommand : invocation.command = .check dir) {error : Error}
    (h : disk.firstFailure? invocation.config dir = some error) :
    ∃ warning log, (perform invocation : StateM Disk _).run disk =
      ({ Outcome.failed error with warning, log }, disk) := by
  unfold firstFailure? at h
  cases hsettings : disk.settings invocation.config with
  | error cause =>
      rw [hsettings] at h
      cases h
      exact ⟨"", [], by rw [run_perform, hsettings]; rfl⟩
  | ok settings =>
      rw [hsettings] at h
      have hresult := result_inspectFiles_eq_error_iff.mpr h
      rw [perform_check hcommand hsettings rfl, ofInspection, hresult]
      exact ⟨_, _, rfl⟩

/-- **Up to date**: a check says so and no more, apart from the log level. -/
lemma perform_of_upToDate (hcommand : invocation.command = .check dir)
    (hsettings : disk.settings invocation.config = .ok settings)
    (hfiles : ∀ file ∈ checkedFiles settings dir,
      disk.readBytes file.path = .ok file.text.toUTF8) :
    (perform invocation : StateM Disk _).run disk =
      ({ code := 0
         stdout := "fixtures in '" ++ (dir.getD settings.outputDir).text ++ "' are up to date\n"
         warning := (verbosity (invocation.logLevel.getD settings.logLevel)).2
         messages := "" }, disk) := by
  have hcomparable : ∀ file ∈ checkedFiles settings dir, disk.Comparable file :=
    fun file hfile => comparable_of_readBytes (hfiles file hfile)
  have hnone : (checkedFiles settings dir).filterMap disk.deviation? = [] :=
    List.filterMap_eq_nil_iff.mpr fun file hfile =>
      (hcomparable file hfile).deviation?_eq_none_iff.mpr (hfiles file hfile)
  have hinspect := run_inspectFiles_of_comparable hcomparable
  rw [hnone] at hinspect
  rw [perform_check hcommand hsettings (congrArg Prod.fst hinspect)]
  rfl

/-- **Out of date**: a check names the files that are, in order, and their number. -/
lemma perform_of_outOfDate (hcommand : invocation.command = .check dir)
    (hsettings : disk.settings invocation.config = .ok settings)
    (hcomparable : ∀ file ∈ checkedFiles settings dir, disk.Comparable file)
    (hsome : ∃ file ∈ checkedFiles settings dir,
      disk.readBytes file.path ≠ .ok file.text.toUTF8) :
    (perform invocation : StateM Disk _).run disk =
      (Outcome.logged
        { code := 1
          stdout := ""
          messages :=
            deviationText (dir.getD settings.outputDir) (checkedDeviations settings dir disk) }
        (invocation.logLevel.getD settings.logLevel)
        ((checkedDeviations settings dir disk).map .deviated), disk) := by
  obtain ⟨file, hfile, hdiffers⟩ := hsome
  obtain ⟨deviation, hdeviation⟩ := Option.ne_none_iff_exists'.mp
    (mt (hcomparable file hfile).deviation?_eq_none_iff.mp hdiffers)
  have hmem : deviation ∈ checkedDeviations settings dir disk :=
    List.mem_filterMap.mpr ⟨file, hfile, hdeviation⟩
  have hinspect := congrArg Prod.fst (run_inspectFiles_of_comparable hcomparable)
  rw [← checkedDeviations] at hinspect
  rw [perform_check hcommand hsettings hinspect, ofInspection, Inspection.result]
  cases hall : checkedDeviations settings dir disk with
  | nil =>
      rw [hall] at hmem
      cases hmem
  | cons first rest => rfl

/-! ## The verdict of a check -/

/-- What a run comes to that checks a directory. -/
structure CheckVerdict (invocation : Invocation) (dir : Option Path) (disk : Disk)
    (outcome : Outcome) : Prop where
  /-- The status is zero exactly if the settings load and every file holds the bytes of its text. -/
  code_eq_zero_iff : outcome.code = 0 ↔
    ∃ settings, disk.settings invocation.config = .ok settings ∧
      ∀ file ∈ checkedFiles settings dir, disk.readBytes file.path = .ok file.text.toUTF8
  /-- These are the bytes that a complete generation leaves in the directory. -/
  written : ∀ (settings : Settings) (before after : Disk) (emission : Emission),
    (Suite.standard.store (dir.getD settings.outputDir) : StateM Disk _).run before =
        (emission, after) → emission.failure = none →
      ∀ file ∈ checkedFiles settings dir, after.readBytes file.path = .ok file.text.toUTF8
  /-- With status zero, one line on the standard output says that the files are up to date, and
  nothing else is said but what concerns the log level. -/
  upToDate : ∀ settings, disk.settings invocation.config = .ok settings → outcome.code = 0 →
    outcome.stdout =
        "fixtures in '" ++ (dir.getD settings.outputDir).text ++ "' are up to date\n" ∧
      outcome.stderr = (verbosity (invocation.logLevel.getD settings.logLevel)).2
  /-- If all files are text or missing and some are not as they should be, the status is one and the
  error output names each of these in order, and then their number. -/
  outOfDate : ∀ settings, disk.settings invocation.config = .ok settings →
    (∀ file ∈ checkedFiles settings dir, disk.Comparable file) →
      (∃ file ∈ checkedFiles settings dir, disk.readBytes file.path ≠ .ok file.text.toUTF8) →
        outcome.code = 1 ∧ outcome.stdout = "" ∧
          outcome.stderr =
            (verbosity (invocation.logLevel.getD settings.logLevel)).2 ++
              String.join (logLines (verbosity (invocation.logLevel.getD settings.logLevel)).1
                ((checkedDeviations settings dir disk).map .deviated)) ++
              (String.join ((checkedDeviations settings dir disk).map fun deviation =>
                  deviation.display ++ "\n") ++
                toString (checkedDeviations settings dir disk).length ++
                " fixture file(s) out of date in '" ++ (dir.getD settings.outputDir).text ++ "'\n")
  /-- In every other case the status is one and the error output ends in the first failure. -/
  failed :
    (¬∃ settings, disk.settings invocation.config = .ok settings ∧
      ∀ file ∈ checkedFiles settings dir, disk.Comparable file) →
        ∃ error, disk.firstFailure? invocation.config dir = some error ∧
          outcome.code = 1 ∧ outcome.stdout = "" ∧
            ∃ before, outcome.stderr = before ++ (error.report ++ "\n")

/-- There is a first failure, or the settings load and all files can be compared. -/
lemma firstFailure?_eq_none_iff {config dir : Option Path} {disk : Disk} :
    disk.firstFailure? config dir = none ↔
      ∃ settings, disk.settings config = .ok settings ∧
        ∀ file ∈ checkedFiles settings dir, disk.Comparable file := by
  unfold firstFailure?
  cases disk.settings config with
  | error cause => simp
  | ok settings => simp [List.findSome?_eq_none_iff, obstacle?_eq_none_iff]

/-- The verdict of a check that a failure ends. -/
lemma exists_verdict_of_firstFailure (hcommand : invocation.command = .check dir) {error : Error}
    (h : disk.firstFailure? invocation.config dir = some error) :
    ∃ outcome, (perform invocation : StateM Disk _).run disk = (outcome, disk) ∧
      CheckVerdict invocation dir disk outcome := by
  have hnot : ¬∃ settings, disk.settings invocation.config = .ok settings ∧
      ∀ file ∈ checkedFiles settings dir, disk.Comparable file := by
    rw [← firstFailure?_eq_none_iff, h]
    exact Option.some_ne_none error
  obtain ⟨warning, log, hrun⟩ := perform_of_firstFailure hcommand h
  refine ⟨_, hrun, ?_, fun _ _ _ _ => readBytes_of_store slash_notMem_standard, ?_, ?_, ?_⟩
  · refine ⟨nofun, ?_⟩
    rintro ⟨settings, hsettings, hfiles⟩
    exact absurd ⟨settings, hsettings, fun file hfile =>
      comparable_of_readBytes (hfiles file hfile)⟩ hnot
  · intro settings _ hcode
    cases hcode
  · intro settings hsettings hcomparable
    exact absurd ⟨settings, hsettings, hcomparable⟩ hnot
  · intro _
    exact ⟨error, h, rfl, rfl, warning ++ String.join log, rfl⟩

/-- The verdict of a check that finds everything up to date. -/
lemma exists_verdict_of_upToDate (hcommand : invocation.command = .check dir)
    (hsettings : disk.settings invocation.config = .ok settings)
    (hfiles : ∀ file ∈ checkedFiles settings dir,
      disk.readBytes file.path = .ok file.text.toUTF8) :
    ∃ outcome, (perform invocation : StateM Disk _).run disk = (outcome, disk) ∧
      CheckVerdict invocation dir disk outcome := by
  refine ⟨_, perform_of_upToDate hcommand hsettings hfiles, ?_,
    fun _ _ _ _ => readBytes_of_store slash_notMem_standard, ?_, ?_, ?_⟩
  · exact ⟨fun _ => ⟨settings, hsettings, hfiles⟩, fun _ => rfl⟩
  · intro others hothers _
    cases hsettings.symm.trans hothers
    exact ⟨rfl, by simp [Outcome.stderr, String.join]⟩
  · intro others hothers _
    cases hsettings.symm.trans hothers
    rintro ⟨file, hfile, hdiffers⟩
    exact absurd (hfiles file hfile) hdiffers
  · intro hnot
    exact absurd ⟨settings, hsettings, fun file hfile =>
      comparable_of_readBytes (hfiles file hfile)⟩ hnot

/-- The verdict of a check that finds files out of date. -/
lemma exists_verdict_of_outOfDate (hcommand : invocation.command = .check dir)
    (hsettings : disk.settings invocation.config = .ok settings)
    (hcomparable : ∀ file ∈ checkedFiles settings dir, disk.Comparable file)
    (hsome : ∃ file ∈ checkedFiles settings dir,
      disk.readBytes file.path ≠ .ok file.text.toUTF8) :
    ∃ outcome, (perform invocation : StateM Disk _).run disk = (outcome, disk) ∧
      CheckVerdict invocation dir disk outcome := by
  refine ⟨_, perform_of_outOfDate hcommand hsettings hcomparable hsome, ?_,
    fun _ _ _ _ => readBytes_of_store slash_notMem_standard, ?_, ?_, ?_⟩
  · refine ⟨nofun, ?_⟩
    rintro ⟨others, hothers, hfiles⟩
    cases hsettings.symm.trans hothers
    obtain ⟨file, hfile, hdiffers⟩ := hsome
    exact absurd (hfiles file hfile) hdiffers
  · intro _ _ hcode
    cases hcode
  · intro others hothers _ _
    cases hsettings.symm.trans hothers
    exact ⟨rfl, rfl, rfl⟩
  · intro hnot
    exact absurd ⟨settings, hsettings, hcomparable⟩ hnot

/-- **The status of a check.** Every accepted command line that checks a directory changes nothing
on any disk; its status is zero exactly if the settings load and every file of the standard suite
holds what generating would write, and in each case it prints what the verdict says. -/
theorem run_check_verdict {arguments : List String} {invocation : Invocation} {dir : Option Path}
    (hread : read arguments = .ok invocation) (hcommand : invocation.command = .check dir)
    (disk : Disk) :
    ∃ outcome, (run arguments : StateM Disk _).run disk = (outcome, disk) ∧
      CheckVerdict invocation dir disk outcome := by
  rw [run_of_read hread]
  cases hfirst : disk.firstFailure? invocation.config dir with
  | some error => exact exists_verdict_of_firstFailure hcommand hfirst
  | none =>
      obtain ⟨settings, hsettings, hcomparable⟩ := firstFailure?_eq_none_iff.mp hfirst
      by_cases hfiles : ∀ file ∈ checkedFiles settings dir,
          disk.readBytes file.path = .ok file.text.toUTF8
      · exact exists_verdict_of_upToDate hcommand hsettings hfiles
      · simp only [not_forall, exists_prop] at hfiles
        exact exists_verdict_of_outOfDate hcommand hsettings hcomparable hfiles

end CommandLine

end endings

namespace CommandLine

/-- A check of a directory with a stale file on a disk without settings. -/
theorem run_check_verdict_cluttered :
    read ["--log-level", "error", "check", "--dir", "old"] =
        .ok ⟨none, some "error", .check (some ⟨"old"⟩)⟩ ∧
      ∃ outcome, (run ["--log-level", "error", "check", "--dir", "old"] : StateM Disk _).run
          .cluttered = (outcome, .cluttered) ∧
        CheckVerdict ⟨none, some "error", .check (some ⟨"old"⟩)⟩ (some ⟨"old"⟩) .cluttered
          outcome := by
  have hread : read ["--log-level", "error", "check", "--dir", "old"] =
      .ok ⟨none, some "error", .check (some ⟨"old"⟩)⟩ := by decide +kernel
  exact ⟨hread, run_check_verdict hread rfl .cluttered⟩

end CommandLine

end Conformance
