import Conformance.Proofs.CommandLine.Checking

/-!
# Generating and then checking

What a run that generates does to a disk, and what a check that follows it finds there, although it
loads its settings again from a disk that has changed.

* **What generating leaves alone** (`entryAt?_of_store`, `readText_of_store`): everything but the
  files of the suite and new directories. A text that was read is read afterwards, unless its path
  leads to one of the files.
* **Settings** (`settings_of_store`): they load again with the same values. No file of a suite has
  the name of the settings file, so settings that are discovered are safe; a file that is named has
  to be another one than the files just written.
* **Success** (`failure_store_standard_eq_none`): generating into a directory that is there is
  complete unless other directories are in the way.
* **Main statement** (`run_generate_verdict`): settings that do not load end every command before it
  has done anything. Otherwise generating writes to the directory that is asked for, or else to that
  of the settings, and if it succeeds, so does every check of the same directory with the same
  settings file.
-/

namespace Conformance

open Disk CommandLine

/-! ## What generating leaves alone -/

section store

variable {suite : Suite} {dir : Path} {before after : Disk} {emission : Emission}

/-- A disk grows when a suite is written to it. -/
lemma grows_of_store (hnames : ∀ scenario ∈ suite.scenarios, '/' ∉ scenario.name.toList)
    (hrun : (suite.store dir : StateM Disk _).run before = (emission, after))
    (hcomplete : emission.failure = none) : before.Grows after := by
  obtain ⟨between, hdirectories, hstores⟩ :=
    exists_storesAll_of_store (suite.fileNames_entries hnames) hrun hcomplete
  exact hdirectories.grows.trans hstores.grows

/-- **What is no file of the suite** is as it was, or a new directory. -/
lemma entryAt?_of_store (hnames : ∀ scenario ∈ suite.scenarios, '/' ∉ scenario.name.toList)
    (hrun : (suite.store dir : StateM Disk _).run before = (emission, after))
    (hcomplete : emission.failure = none) {location : Location}
    (hother : ∀ file ∈ suite.files dir, after.resolve file.path ≠ .ok location) :
    after.entryAt? location = before.entryAt? location ∨
      before.entryAt? location = none ∧ after.entryAt? location = some .directory := by
  obtain ⟨between, hdirectories, hstores⟩ :=
    exists_storesAll_of_store (suite.fileNames_entries hnames) hrun hcomplete
  have hsame : after.entryAt? location = between.entryAt? location := by
    refine hstores.frame location fun entry hentry => hother (entryFile dir entry) ?_
    rw [suite.files_eq]
    exact List.mem_map_of_mem hentry
  rw [hsame]
  exact (hdirectories.entry_eq_or_new location).imp_right fun hnew => ⟨hnew.1, hnew.2.1⟩

/-- **A text that was read** is read after a suite is written, unless its path leads to one of the
files. -/
lemma readText_of_store (hnames : ∀ scenario ∈ suite.scenarios, '/' ∉ scenario.name.toList)
    (hrun : (suite.store dir : StateM Disk _).run before = (emission, after))
    (hcomplete : emission.failure = none) {path : Path} {text : String}
    (hother : ∀ location, after.resolve path = .ok location →
      ∀ file ∈ suite.files dir, after.resolve file.path ≠ .ok location)
    (hread : before.readText path = .ok text) : after.readText path = .ok text := by
  obtain ⟨location, hresolve, hentry⟩ := exists_file_of_readText hread
  have hafter := (grows_of_store hnames hrun hcomplete).resolve_eq hresolve
  have hsame : after.entryAt? location = before.entryAt? location := by
    refine (entryAt?_of_store hnames hrun hcomplete (hother location hafter)).resolve_right ?_
    rintro ⟨hnone, -⟩
    rw [hentry] at hnone
    cases hnone
  rw [readText_of_resolve hafter, hsame, hentry]
  simp only [fromUTF8?_toUTF8]

/-! ## Settings -/

/-- The settings file has a name of a file. -/
lemma isFileName_settingsFile : IsFileName settingsFile := by
  refine ⟨?_, ?_, ?_, ?_⟩ <;> decide

/-- No file of a suite has the name of the settings file. -/
lemma settingsFile_notMem_entries (suite : Suite) :
    settingsFile ∉ suite.entries.map Prod.fst := by
  intro hmem
  obtain ⟨entry, hentry, hname⟩ := List.mem_map.mp hmem
  obtain ⟨scenario, -, hsource | hanswer⟩ := Suite.name_cases hentry
  · exact @ne_append_extension settingsFile _ _ 'n' (by decide) (by decide)
      (hname.symm.trans hsource)
  · exact @ne_append_extension settingsFile _ _ 't' (by decide) (by decide)
      (hname.symm.trans hanswer)

/-- The path of the settings file leads to its name in the working directory, if something is
there. -/
lemma resolve_discoveredPath_eq_ok_iff {disk : Disk} {location : Location} :
    disk.resolve discoveredPath = .ok location ↔
      disk.entryAt? (settingsFile :: disk.current) ≠ none ∧
        location = settingsFile :: disk.current := by
  have henter : disk.enter ⟨"."⟩ = .ok disk.current := by
    have hfolders : Path.folders ⟨"."⟩ = ["."] := by decide +kernel
    have hcurrent : disk.entryAt? disk.current = some .directory := disk.current_directory
    rw [enter, hfolders]
    simp [walk, follow, start, Path.isAbsolute, hcurrent]
  have hfault : discoveredPath.fault? = none := by decide +kernel
  rw [discoveredPath] at hfault
  rw [discoveredPath, resolve_join_eq_ok_iff isFileName_settingsFile, henter]
  simp [hfault, show settingsFile.utf8ByteSize ≤ nameLimit by decide]

/-- The settings file is discovered exactly if its name is that of a file in the working
directory. -/
lemma isFile_discoveredPath_iff {disk : Disk} :
    disk.isFile discoveredPath = true ↔
      ∃ content, disk.entryAt? (settingsFile :: disk.current) = some (.file content) := by
  rw [isFile_iff]
  constructor
  · rintro ⟨location, content, hresolve, hentry⟩
    obtain ⟨-, rfl⟩ := resolve_discoveredPath_eq_ok_iff.mp hresolve
    exact ⟨content, hentry⟩
  · rintro ⟨content, hentry⟩
    exact ⟨_, content, resolve_discoveredPath_eq_ok_iff.mpr ⟨by rw [hentry]; exact nofun, rfl⟩,
      hentry⟩

/-- The path of the settings file leads to no file of a suite. -/
lemma resolve_ne_of_discoveredPath
    (hnames : ∀ scenario ∈ suite.scenarios, '/' ∉ scenario.name.toList) {disk : Disk} :
    ∀ file ∈ suite.files dir,
      disk.resolve file.path ≠ .ok (settingsFile :: disk.current) := by
  intro file hfile hresolve
  rw [suite.files_eq] at hfile
  obtain ⟨entry, hentry, rfl⟩ := List.mem_map.mp hfile
  obtain ⟨-, -, here, -, -, hlocation⟩ :=
    (resolve_join_eq_ok_iff ((suite.fileNames_entries hnames).isFileName entry hentry)).mp hresolve
  have hname : settingsFile = entry.1 := (List.cons.inj hlocation).1
  exact settingsFile_notMem_entries suite (hname ▸ List.mem_map_of_mem hentry)

/-- The settings file is discovered after a suite is written exactly if it was before. -/
lemma isFile_discoveredPath_of_store
    (hnames : ∀ scenario ∈ suite.scenarios, '/' ∉ scenario.name.toList)
    (hrun : (suite.store dir : StateM Disk _).run before = (emission, after))
    (hcomplete : emission.failure = none) :
    after.isFile discoveredPath = before.isFile discoveredPath := by
  have hcurrent := (grows_of_store hnames hrun hcomplete).current_eq
  rw [Bool.eq_iff_iff, isFile_discoveredPath_iff, isFile_discoveredPath_iff, ← hcurrent]
  rcases entryAt?_of_store hnames hrun hcomplete (resolve_ne_of_discoveredPath hnames) with
    hsame | ⟨hnone, hnew⟩
  · rw [hsame]
  · rw [hnone, hnew]
    simp

/-- Settings in a file are those of a text that is read there. -/
lemma settingsIn_of_readText [Toml.Wording] {before after : Disk} {path : Path}
    {settings : Settings}
    (hread : ∀ text, before.readText path = .ok text → after.readText path = .ok text)
    (h : before.settingsIn path = .ok settings) : after.settingsIn path = .ok settings := by
  unfold settingsIn at h ⊢
  cases htext : before.readText path with
  | error cause =>
      rw [htext] at h
      cases h
  | ok text =>
      rw [htext] at h
      rw [hread text htext]
      exact h

/-- **Settings load again** after a suite is written, unless they are in one of its files. -/
lemma settings_of_store [Toml.Wording]
    (hnames : ∀ scenario ∈ suite.scenarios, '/' ∉ scenario.name.toList)
    (hrun : (suite.store dir : StateM Disk _).run before = (emission, after))
    (hcomplete : emission.failure = none) {config : Option Path} {settings : Settings}
    (hother : ∀ path, config = some path → ∀ location, after.resolve path = .ok location →
      ∀ file ∈ suite.files dir, after.resolve file.path ≠ .ok location)
    (h : before.settings config = .ok settings) : after.settings config = .ok settings := by
  cases config with
  | some path =>
      exact settingsIn_of_readText
        (fun text => readText_of_store hnames hrun hcomplete (hother path rfl)) h
  | none =>
      unfold Disk.settings at h ⊢
      dsimp only at h ⊢
      rw [isFile_discoveredPath_of_store hnames hrun hcomplete]
      split at h
      · next hfile =>
          rw [if_pos hfile]
          refine settingsIn_of_readText (fun text => readText_of_store hnames hrun hcomplete ?_) h
          intro location hlocation
          obtain ⟨-, rfl⟩ := resolve_discoveredPath_eq_ok_iff.mp hlocation
          exact resolve_ne_of_discoveredPath hnames
      · next hfile => rwa [if_neg hfile]

end store

/-! ## When generating succeeds -/

/-- The names of the standard files hold no NUL. -/
lemma nul_notMem_entries :
    ∀ entry ∈ Suite.standard.entries, '\x00' ∉ entry.1.toList := by
  intro entry hentry
  obtain ⟨scenario, hscenario, hentry⟩ := Suite.name_cases hentry
  have hname := (notMem_standard scenario hscenario).2
  rcases hentry with hsource | hanswer
  · simp [hsource, sourceName, hname, sourceExtension]
  · simp [hanswer, answerName, hname, answerExtension]

/-- The names of the standard files are short. -/
lemma size_entries_le : ∀ entry ∈ Suite.standard.entries, entry.1.utf8ByteSize ≤ 32 := by
  decide +kernel

/-- **Generating succeeds** in every directory that is there under a path of moderate length, unless
another directory has the name of a file. -/
lemma failure_store_standard_eq_none {disk : Disk} {dir : Path} {here : Location}
    (hdirectory : disk.isDirectory dir = true) (henter : disk.enter dir = .ok here)
    (hnul : '\x00' ∉ dir.text.toList) (hsize : dir.text.utf8ByteSize ≤ 4000)
    (hfree : ∀ entry ∈ Suite.standard.entries,
      disk.entryAt? (entry.1 :: here) ≠ some .directory) :
    ((Suite.standard.store dir : StateM Disk _).run disk).1.failure = none := by
  have hnames := Suite.standard.fileNames_entries slash_notMem_standard
  rw [failure_store_eq_none_iff hnames hdirectory]
  intro entry hentry
  have hshort := size_entries_le entry hentry
  refine ⟨here, .of_free (hnames.isFileName entry hentry) henter ?_ ?_ ?_ (hfree entry hentry)⟩
  · simp [hnul, nul_notMem_entries entry hentry]
  · exact Nat.le_trans hshort (by decide)
  · rw [Path.limit]
    omega

/-! ## The verdict of a generation -/

namespace CommandLine

/-- What a run comes to that generates, where the settings load. -/
structure GenerateVerdict [Toml.Wording] (invocation : Invocation) (out : Option Path)
    (settings : Settings) (emission : Emission) (outcome : Outcome) (after : Disk) : Prop where
  /-- The status is zero exactly if the emission is complete, and otherwise one. -/
  code_eq : outcome.code = if emission.failure.isNone then 0 else 1
  /-- After a failure nothing is printed on the standard output. -/
  failed : outcome.code ≠ 0 → outcome.stdout = ""
  /-- After a success the summary names the directory. -/
  summary : outcome.code = 0 → outcome.stdout =
    EmissionSummary.message ⟨out.getD settings.outputDir, 27, 54⟩ ++ "\n" ++
      "Make sure to run 'make' before testing.\n"
  /-- The files of the standard suite are in the directory then. -/
  written : outcome.code = 0 → ∀ file ∈ checkedFiles settings out,
    after.readBytes file.path = .ok file.text.toUTF8
  /-- Every later check with the same settings file and the same choice of directory succeeds,
  unless the settings file is named and is one of the files just written. -/
  recheck : outcome.code = 0 →
    (∀ path, invocation.config = some path → ∀ location, after.resolve path = .ok location →
      ∀ file ∈ checkedFiles settings out, after.resolve file.path ≠ .ok location) →
      ∀ (arguments : List String) (later : Invocation), read arguments = .ok later →
        later.config = invocation.config → later.command = .check out →
          ∃ verdict, (run arguments : StateM Disk _).run after = (verdict, after) ∧ verdict.code = 0

/-- The outcome of an emission that fails. -/
lemma ofEmission_of_failure {emission : Emission} {error : Error}
    (h : emission.failure = some error) : ofEmission emission = .failed error := by
  rw [ofEmission, Emission.summary, h]

/-- The outcome of a complete emission of the standard suite. -/
lemma ofEmission_of_complete {emission : Emission} (hcomplete : emission.failure = none)
    (hwritten : emission.written = Suite.standard.scenarios) :
    ofEmission emission =
      { code := 0
        stdout := EmissionSummary.message ⟨emission.dir, 27, 54⟩ ++ "\n" ++
          "Make sure to run 'make' before testing.\n"
        messages := "" } := by
  have hsize : Suite.standard.scenarios.length = 27 := by decide +kernel
  have hsummary : emission.summary = .ok ⟨emission.dir, 27, 54⟩ :=
    Emission.summary_eq_ok_iff.mpr ⟨hcomplete, by rw [hwritten, hsize]⟩
  rw [ofEmission, hsummary]

/-- **Checking after generating** the same directory with the same settings file. -/
lemma perform_check_of_store [Toml.Wording] {invocation : Invocation} {dir : Option Path}
    {settings : Settings} {before after : Disk} {emission : Emission}
    (hcommand : invocation.command = .check dir)
    (hrun : (Suite.standard.store (dir.getD settings.outputDir) : StateM Disk _).run before =
      (emission, after))
    (hcomplete : emission.failure = none)
    (hother : ∀ path, invocation.config = some path → ∀ location,
      after.resolve path = .ok location →
        ∀ file ∈ checkedFiles settings dir, after.resolve file.path ≠ .ok location)
    (hsettings : before.settings invocation.config = .ok settings) :
    ∃ outcome, (perform invocation : StateM Disk _).run after = (outcome, after) ∧
      outcome.code = 0 := by
  have hagain := settings_of_store slash_notMem_standard hrun hcomplete hother hsettings
  have hfiles := readBytes_of_store slash_notMem_standard hrun hcomplete
  exact ⟨_, perform_of_upToDate hcommand hagain hfiles, rfl⟩

/-- What a generation does once its settings are loaded. -/
lemma perform_generate [Toml.Wording] {invocation : Invocation} {out : Option Path}
    {settings : Settings} {disk after : Disk} {emission : Emission}
    (hcommand : invocation.command = .generate out)
    (hsettings : disk.settings invocation.config = .ok settings)
    (hrun : (Suite.standard.store (out.getD settings.outputDir) : StateM Disk _).run disk =
      (emission, after)) :
    (perform invocation : StateM Disk _).run disk =
      ((ofEmission emission).logged (invocation.logLevel.getD settings.logLevel) emission.events,
        after) := by
  simp only [run_perform, hsettings, hcommand, run_execute_generate, hrun]

/-- The verdict of a generation. -/
lemma generateVerdict_of_store [Toml.Wording] {invocation : Invocation} {out : Option Path}
    {settings : Settings} {disk after : Disk} {emission : Emission}
    (hsettings : disk.settings invocation.config = .ok settings)
    (hrun : (Suite.standard.store (out.getD settings.outputDir) : StateM Disk _).run disk =
      (emission, after)) (level : String) :
    GenerateVerdict invocation out settings emission
      ((ofEmission emission).logged level emission.events) after := by
  cases hfailure : emission.failure with
  | some error =>
      have houtcome := ofEmission_of_failure hfailure
      have hcode : ((ofEmission emission).logged level emission.events).code = 1 := by
        rw [houtcome]
        rfl
      have hnot : ((ofEmission emission).logged level emission.events).code ≠ 0 := by
        rw [hcode]
        decide
      refine ⟨?_, fun _ => ?_, fun h => absurd h hnot, fun h => absurd h hnot,
        fun h => absurd h hnot⟩
      · rw [hcode, hfailure]
        rfl
      · rw [houtcome]
        rfl
  | none =>
      rcases run_store_cases hrun with ⟨cause, -, rfl⟩ | ⟨between, -, -, hdir, hwritten⟩
      · cases hfailure
      have houtcome := ofEmission_of_complete hfailure (hwritten hfailure)
      refine ⟨?_, ?_, fun _ => ?_, fun _ => readBytes_of_store slash_notMem_standard hrun hfailure,
        ?_⟩
      · rw [houtcome, hfailure]
        rfl
      · intro hnot
        rw [houtcome] at hnot
        exact absurd rfl hnot
      · rw [houtcome, hdir]
        rfl
      · intro _ hother arguments later hread hconfig hcommand
        rw [run_of_read hread]
        rw [← hconfig] at hother hsettings
        exact perform_check_of_store hcommand hrun hfailure hother hsettings

/-- **Generating and checking meet.** On every disk, settings that do not load end every command
with status one and their error, before anything is changed or printed on the standard output.
Otherwise generating writes the standard suite to the directory of the command line, or else to that
of the settings, and its verdict says what it prints and that checks which follow a success
succeed. -/
theorem run_generate_verdict [Toml.Wording] {arguments : List String} {invocation : Invocation}
    (hread : read arguments = .ok invocation) (disk : Disk) :
    (∀ error, disk.settings invocation.config = .error error →
      ∃ outcome, (run arguments : StateM Disk _).run disk = (outcome, disk) ∧
        outcome.code = 1 ∧ outcome.stdout = "" ∧ outcome.stderr = error.report ++ "\n") ∧
    ∀ settings out, disk.settings invocation.config = .ok settings →
      invocation.command = .generate out →
        ∃ emission outcome after,
          (Suite.standard.store (out.getD settings.outputDir) : StateM Disk _).run disk =
              (emission, after) ∧
            (run arguments : StateM Disk _).run disk = (outcome, after) ∧
              GenerateVerdict invocation out settings emission outcome after := by
  rw [run_of_read hread]
  constructor
  · intro error herror
    refine ⟨.failed error, ?_, rfl, rfl, ?_⟩
    · rw [run_perform, herror]
    · simp [Outcome.stderr, Outcome.failed, String.join]
  · intro settings out hsettings hcommand
    exact ⟨_, _, _, rfl, perform_generate hcommand hsettings rfl,
      generateVerdict_of_store hsettings rfl _⟩

/-- A generation into a directory with a stale file, on a disk without settings; a named settings
file that is missing; and a check after the generation. -/
theorem run_generate_verdict_cluttered :
    read ["generate", "--out", "old"] = .ok ⟨none, none, .generate (some ⟨"old"⟩)⟩ ∧
      read ["--config", "none.toml", "list"] = .ok ⟨some ⟨"none.toml"⟩, none, .list false⟩ ∧
      (∃ outcome, (run ["--config", "none.toml", "list"] : StateM Disk _).run .cluttered =
          (outcome, .cluttered) ∧ outcome.code = 1 ∧ outcome.stdout = "" ∧
            outcome.stderr = "error: config error: could not read file: " ++
              "No such file or directory (os error 2)\n  --> none.toml\n") ∧
      ∃ outcome after, (run ["generate", "--out", "old"] : StateM Disk _).run .cluttered =
          (outcome, after) ∧ outcome.code = 0 ∧
        ∃ verdict, (run ["check", "-d", "old"] : StateM Disk _).run after = (verdict, after) ∧
          verdict.code = 0 := by
  have hgenerate : read ["generate", "--out", "old"] =
      .ok ⟨none, none, .generate (some ⟨"old"⟩)⟩ := by decide +kernel
  have hlist : read ["--config", "none.toml", "list"] =
      .ok ⟨some ⟨"none.toml"⟩, none, .list false⟩ := by decide +kernel
  have hcheck : read ["check", "-d", "old"] = .ok ⟨none, none, .check (some ⟨"old"⟩)⟩ := by
    decide +kernel
  have hmissing : Disk.cluttered.settings (some ⟨"none.toml"⟩) =
      .error (.settings (.unreadable .notFound) ⟨"none.toml"⟩) := by decide +kernel
  have hsettings : Disk.cluttered.settings none = .ok {} := by decide +kernel
  have hother : ∀ entry ∈ Suite.standard.entries, entry.1 ≠ "a" := by decide +kernel
  have hcomplete : ((Suite.standard.store ⟨"old"⟩ : StateM Disk _).run .cluttered).1.failure =
      none := by
    refine @failure_store_standard_eq_none _ _ ["old", "work"] (by decide +kernel)
      (by decide +kernel) (by decide) (by decide) fun entry hentry => ?_
    have hbare : Disk.bare.entryAt? [entry.1, "old", "work"] = none := by
      simp [Disk.bare, Disk.entryAt?]
    simp [Disk.cluttered, Disk.entryAt?_put, hother entry hentry, hbare]
  refine ⟨hgenerate, hlist, ?_, ?_⟩
  · obtain ⟨outcome, hrun, hcode, hstdout, hstderr⟩ :=
      (run_generate_verdict hlist .cluttered).1 _ hmissing
    exact ⟨outcome, hrun, hcode, hstdout, by rw [hstderr]; decide +kernel⟩
  · obtain ⟨emission, outcome, after, hstore, hrun, hverdict⟩ :=
      (run_generate_verdict hgenerate .cluttered).2 {} (some ⟨"old"⟩) hsettings rfl
    rw [Option.getD_some] at hstore
    rw [hstore] at hcomplete
    have hcode : outcome.code = 0 := by
      rw [hverdict.code_eq, hcomplete]
      rfl
    refine ⟨outcome, after, hrun, hcode, hverdict.recheck hcode ?_ _ _ hcheck rfl rfl⟩
    intro path hpath
    cases hpath

end CommandLine

end Conformance
