import Conformance.Proofs.Disk.Straight
import Conformance.Proofs.Fixture.RoundTrip

/-!
# Comparing as a preview of writing

What a comparison reports, and that it is what writing the suite to the same disk would change.

* **Exact reports** (`ExactInspection`): the first file that can neither be read as text nor is not
  found is the error; without one, the deviations are those of all files in order.
* **Before and after** (`Emitted.deviation?_eq_some_iff`): before an emission, a file of the suite
  is missing or differs exactly if the location that it is stored at afterwards holds nothing or
  another content.
* **Previews** (`Preview`): the missing paths are the files that an emission creates, the differing
  ones are those whose content it changes.
* **Main statement** (`inspect_previews_store`): comparisons are exact and change nothing, and they
  are previews of complete emissions.
-/

namespace Conformance

open Disk

/-- The path that a deviation is about. -/
def Deviation.path : Deviation → Path
  | missing path => path
  | differs path => path

/-- What a comparison of files with a disk finds, by what is read at their paths. -/
structure ExactInspection (files : List StoredFile) (disk : Disk) (inspection : Inspection) :
    Prop where
  /-- The first file that can neither be read as text nor is not found is the error. -/
  result_eq_error : ∀ before file after cause, files = before ++ file :: after →
    (∀ earlier ∈ before, disk.Comparable earlier) →
      disk.readText file.path = .error cause → cause ≠ .notFound →
        inspection.result = .error (.disk file.path cause)
  /-- Without such a file, the deviations of all files are found in order. -/
  result_eq_ok : (∀ file ∈ files, disk.Comparable file) →
    inspection.result = .ok (files.filterMap disk.deviation?)

/-- **Comparing is exact** and changes nothing. -/
lemma exists_exactInspection (files : List StoredFile) (disk : Disk) :
    ∃ inspection, (inspectFiles files : StateM Disk _).run disk = (inspection, disk) ∧
      ExactInspection files disk inspection := by
  rcases comparable_or_failure disk files with
    hfiles | ⟨before, file, after, cause, rfl, hbefore, hread, hcause⟩
  · refine ⟨_, run_inspectFiles_of_comparable hfiles, ?_, fun _ => rfl⟩
    rintro before file after cause rfl - hread hcause
    exact absurd (hfiles file (by simp) cause hread) hcause
  · have hrun := run_inspectFiles_of_failure hbefore hread hcause after
    refine ⟨_, hrun, ?_, ?_⟩
    · intro before' file' after' cause' hfiles hbefore' hread' hcause'
      have hrun' := run_inspectFiles_of_failure hbefore' hread' hcause' after'
      rw [← hfiles, hrun] at hrun'
      rw [(Prod.mk.inj hrun').1]
      rfl
    · intro hfiles
      exact absurd (hfiles file (by simp) cause hread) hcause

/-- What a comparison says of an emission to the same disk. -/
structure Preview (deviations : List Deviation) (before after : Disk) : Prop where
  /-- Every deviation is about something that is there afterwards. -/
  resolve_eq : ∀ deviation ∈ deviations, ∃ location,
    after.resolve deviation.path = .ok location
  /-- The files that the emission creates are those at the missing paths. -/
  created_iff : ∀ location,
    (before.entryAt? location = none ∧
        ∃ content, after.entryAt? location = some (.file content)) ↔
      ∃ path, .missing path ∈ deviations ∧ after.resolve path = .ok location
  /-- The files whose content the emission changes are those at the differing paths. -/
  changed_iff : ∀ location,
    (∃ old new, before.entryAt? location = some (.file old) ∧
        after.entryAt? location = some (.file new) ∧ old ≠ new) ↔
      ∃ path, .differs path ∈ deviations ∧ after.resolve path = .ok location

/-! ## Before and after -/

/-- The texts of a suite as an emission to a directory without two dots in its path stores them, on
a disk on which all of them could be compared before. -/
structure Emitted (dir : Path) (entries : List (String × String)) (before after : Disk) : Prop where
  /-- The names are names of files. -/
  isFileName : ∀ entry ∈ entries, IsFileName entry.1
  /-- The path of the directory does not lead outwards. -/
  up_notMem : .up ∉ dir.components
  /-- Nothing disappears and no directory becomes a file. -/
  grows : before.Grows after
  /-- Every text is stored. -/
  stored : ∀ entry ∈ entries, ∃ here, after.Stored dir here entry.1 entry.2
  /-- A file that none of the paths leads to is as it was. -/
  frame : ∀ location content, after.entryAt? location = some (.file content) →
    before.entryAt? location = some (.file content) ∨
      ∃ entry ∈ entries, after.resolve (dir.join ⟨entry.1⟩) = .ok location
  /-- Every text could be compared before. -/
  comparable : ∀ entry ∈ entries, before.Comparable (entryFile dir entry)

variable {dir : Path} {entries : List (String × String)} {before after : Disk}

/-- A text is stored somewhere. -/
lemma Emitted.exists_location (h : Emitted dir entries before after) {entry : String × String}
    (hentry : entry ∈ entries) :
    ∃ location, after.resolve (dir.join ⟨entry.1⟩) = .ok location ∧
      after.entryAt? location = some (.file entry.2.toUTF8) := by
  obtain ⟨here, hstored⟩ := h.stored entry hentry
  exact ⟨entry.1 :: here, hstored.resolve_eq (h.isFileName entry hentry), hstored.entry_eq⟩

/-- **One file before and after.** What was found of it tells what was at its location. -/
lemma Emitted.deviation?_eq_some_iff (h : Emitted dir entries before after)
    {entry : String × String} (hentry : entry ∈ entries) {location : Location}
    (hleads : after.resolve (dir.join ⟨entry.1⟩) = .ok location) {deviation : Deviation} :
    before.deviation? (entryFile dir entry) = some deviation ↔
      deviation = .missing (dir.join ⟨entry.1⟩) ∧ before.entryAt? location = none ∨
        deviation = .differs (dir.join ⟨entry.1⟩) ∧
          ∃ old, before.entryAt? location = some (.file old) ∧ old ≠ entry.2.toUTF8 := by
  have hname := h.isFileName entry hentry
  obtain ⟨here, hstored⟩ := h.stored entry hentry
  have hlocation : location = entry.1 :: here :=
    Except.ok.inj (hleads.symm.trans (hstored.resolve_eq hname))
  subst hlocation
  cases hread : before.readText (dir.join ⟨entry.1⟩) with
  | error cause =>
      have hcause : cause = .notFound := h.comparable entry hentry cause hread
      subst hcause
      have habsent := hstored.entryAt?_eq_none_of_notFound h.grows hname h.up_notMem hread
      simp [deviation?, entryFile, hread, habsent, @eq_comm _ deviation]
  | ok text =>
      have hold := hstored.entryAt?_of_readText h.grows hname hread
      have hbytes : text.toUTF8 ≠ entry.2.toUTF8 ↔ text ≠ entry.2 :=
        not_congr String.toByteArray_inj
      by_cases htext : text = entry.2
      · simp [deviation?, entryFile, hread, hold, htext]
      · simp only [deviation?, entryFile, hread, hold, htext, hbytes, if_false, ne_eq,
          Option.some.injEq, Entry.file.injEq, reduceCtorEq, and_false, false_or, exists_eq_left',
          not_false_eq_true, and_true, @eq_comm _ deviation]

/-- **All files before and after.** A deviation is about the path of one of the texts, and tells
what was where the text is stored. -/
lemma Emitted.mem_deviations_iff (h : Emitted dir entries before after) {deviation : Deviation} :
    deviation ∈ (entries.map (entryFile dir)).filterMap before.deviation? ↔
      ∃ entry ∈ entries, ∃ location, after.resolve (dir.join ⟨entry.1⟩) = .ok location ∧
        (deviation = .missing (dir.join ⟨entry.1⟩) ∧ before.entryAt? location = none ∨
          deviation = .differs (dir.join ⟨entry.1⟩) ∧
            ∃ old, before.entryAt? location = some (.file old) ∧ old ≠ entry.2.toUTF8) := by
  rw [List.mem_filterMap]
  constructor
  · rintro ⟨file, hfile, hfound⟩
    obtain ⟨entry, hentry, rfl⟩ := List.mem_map.mp hfile
    obtain ⟨location, hleads, -⟩ := h.exists_location hentry
    exact ⟨entry, hentry, location, hleads, (h.deviation?_eq_some_iff hentry hleads).mp hfound⟩
  · rintro ⟨entry, hentry, location, hleads, hwas⟩
    exact ⟨_, List.mem_map_of_mem hentry, (h.deviation?_eq_some_iff hentry hleads).mpr hwas⟩

/-- A text is the content of the file that its path leads to. -/
lemma Emitted.entryAt?_eq (h : Emitted dir entries before after) {entry : String × String}
    (hentry : entry ∈ entries) {location : Location}
    (hleads : after.resolve (dir.join ⟨entry.1⟩) = .ok location) :
    after.entryAt? location = some (.file entry.2.toUTF8) := by
  obtain ⟨there, hthere, hstored⟩ := h.exists_location hentry
  cases hleads.symm.trans hthere
  exact hstored

/-- **Deviations are changes**: what was found of the texts before an emission tells which files it
creates and which it changes. -/
lemma Emitted.preview (h : Emitted dir entries before after) :
    Preview ((entries.map (entryFile dir)).filterMap before.deviation?) before after := by
  refine ⟨?_, ?_, ?_⟩
  · intro deviation hdeviation
    obtain ⟨entry, -, location, hleads, ⟨rfl, -⟩ | ⟨rfl, -⟩⟩ :=
      h.mem_deviations_iff.mp hdeviation
    · exact ⟨location, hleads⟩
    · exact ⟨location, hleads⟩
  · intro location
    constructor
    · rintro ⟨habsent, content, hcontent⟩
      rcases h.frame location content hcontent with hsame | ⟨entry, hentry, hleads⟩
      · rw [habsent] at hsame
        cases hsame
      · refine ⟨_, h.mem_deviations_iff.mpr ?_, hleads⟩
        exact ⟨entry, hentry, location, hleads, .inl ⟨rfl, habsent⟩⟩
    · rintro ⟨path, hpath, hleads⟩
      obtain ⟨entry, hentry, there, hthere, ⟨hmissing, habsent⟩ | ⟨⟨⟩, -⟩⟩ :=
        h.mem_deviations_iff.mp hpath
      cases hmissing
      cases hleads.symm.trans hthere
      exact ⟨habsent, _, h.entryAt?_eq hentry hleads⟩
  · intro location
    constructor
    · rintro ⟨old, new, hold, hnew, hne⟩
      rcases h.frame location new hnew with hsame | ⟨entry, hentry, hleads⟩
      · cases hold.symm.trans hsame
        exact absurd rfl hne
      · cases hnew.symm.trans (h.entryAt?_eq hentry hleads)
        refine ⟨_, h.mem_deviations_iff.mpr ?_, hleads⟩
        exact ⟨entry, hentry, location, hleads, .inr ⟨rfl, old, hold, hne⟩⟩
    · rintro ⟨path, hpath, hleads⟩
      obtain ⟨entry, hentry, there, hthere, ⟨⟨⟩, -⟩ | ⟨hdiffers, old, hold, hne⟩⟩ :=
        h.mem_deviations_iff.mp hpath
      cases hdiffers
      cases hleads.symm.trans hthere
      exact ⟨old, _, hold, h.entryAt?_eq hentry hleads, hne⟩

/-! ## The emission of a suite -/

/-- **A complete emission** to a directory without two dots in its path stores the texts of the
suite as they could be compared before. -/
lemma emitted_of_store {suite : Suite} {dir : Path} {before after : Disk} {emission : Emission}
    (hnames : ∀ scenario ∈ suite.scenarios, '/' ∉ scenario.name.toList)
    (hdots : .up ∉ dir.components)
    (hrun : (suite.store dir : StateM Disk _).run before = (emission, after))
    (hcomplete : emission.failure = none)
    (hcomparable : ∀ file ∈ suite.files dir, before.Comparable file) :
    Emitted dir suite.entries before after := by
  have hentries := suite.fileNames_entries hnames
  obtain ⟨between, hdirectories, hstores⟩ := exists_storesAll_of_store hentries hrun hcomplete
  refine
    { isFileName := hentries.isFileName
      up_notMem := hdots
      grows := hdirectories.grows.trans hstores.grows
      stored := hstores.stored
      frame := ?_
      comparable := ?_ }
  · intro location content hcontent
    by_cases hnone : ∀ entry ∈ suite.entries, after.resolve (dir.join ⟨entry.1⟩) ≠ .ok location
    · -- the writes left the location alone, and the directories are no files
      have hbetween := hstores.frame location hnone
      rcases hdirectories.entry_eq_or_new location with hsame | ⟨-, hnew, -⟩
      · exact .inl (hsame.symm.trans (hbetween.symm.trans hcontent))
      · rw [hbetween, hnew] at hcontent
        cases hcontent
    · simp only [not_forall, not_not, exists_prop] at hnone
      exact .inr hnone
  · intro entry hentry
    refine hcomparable (entryFile dir entry) ?_
    rw [suite.files_eq]
    exact List.mem_map_of_mem hentry

/-- **Comparisons are exact and previews.** A comparison of a suite with any disk changes nothing
and reports, in the order of the files, what is read at their paths. Where a comparison finds no
error and the suite is then written completely, its names holding no slash and the path of the
directory no two dots, the deviations are the files that are created and those whose content is
changed. -/
theorem inspect_previews_store (suite : Suite) (dir : Path) :
    (∀ disk : Disk, ∃ inspection,
      (suite.inspect dir : StateM Disk _).run disk = (inspection, disk) ∧
        ExactInspection (suite.files dir) disk inspection) ∧
    ∀ (before after : Disk) (inspection : Inspection) (deviations : List Deviation)
      (emission : Emission) (summary : EmissionSummary),
      (∀ scenario ∈ suite.scenarios, '/' ∉ scenario.name.toList) →
        .up ∉ dir.components →
          (suite.inspect dir : StateM Disk _).run before = (inspection, before) →
            inspection.result = .ok deviations →
              (suite.store dir : StateM Disk _).run before = (emission, after) →
                emission.summary = .ok summary → Preview deviations before after := by
  refine ⟨exists_exactInspection (suite.files dir), ?_⟩
  intro before after inspection deviations emission summary hnames hdots hinspect hresult hstore
    hsummary
  obtain ⟨hcomplete, -⟩ := Emission.summary_eq_ok_iff.mp hsummary
  obtain ⟨inspection', hrun, hexact⟩ := exists_exactInspection (suite.files dir) before
  cases hrun.symm.trans hinspect
  rcases comparable_or_failure before (suite.files dir) with
    hcomparable | ⟨first, file, rest, cause, hfiles, hfirst, hread, hcause⟩
  · have hemitted := emitted_of_store hnames hdots hstore hcomplete hcomparable
    have hdeviations := hexact.result_eq_ok hcomparable
    rw [hresult, suite.files_eq] at hdeviations
    cases hdeviations
    exact hemitted.preview
  · rw [hexact.result_eq_error first file rest cause hfiles hfirst hread hcause] at hresult
    cases hresult

/-- On a disk with a stale source file, a comparison reports it with the three files that are
missing, and these are what an emission changes and creates. -/
theorem inspect_previews_store_cluttered :
    (∀ scenario ∈ Suite.pair.scenarios, '/' ∉ scenario.name.toList) ∧
      .up ∉ Path.components ⟨"old"⟩ ∧
      ((Suite.pair.inspect ⟨"old"⟩ : StateM Disk _).run .cluttered).1.result =
        .ok [.differs ⟨"old/a.in"⟩, .missing ⟨"old/a.out"⟩, .missing ⟨"old/b.in"⟩,
          .missing ⟨"old/b.out"⟩] ∧
      ((Suite.pair.store ⟨"old"⟩ : StateM Disk _).run .cluttered).1.summary =
        .ok ⟨⟨"old"⟩, 2, 4⟩ ∧
      Preview [.differs ⟨"old/a.in"⟩, .missing ⟨"old/a.out"⟩, .missing ⟨"old/b.in"⟩,
          .missing ⟨"old/b.out"⟩] .cluttered
        ((Suite.pair.store ⟨"old"⟩ : StateM Disk _).run .cluttered).2 := by
  have hnames : ∀ scenario ∈ Suite.pair.scenarios, '/' ∉ scenario.name.toList := by decide
  have hdots : .up ∉ Path.components ⟨"old"⟩ := by decide +kernel
  have hresult : ((Suite.pair.inspect ⟨"old"⟩ : StateM Disk _).run .cluttered).1.result =
      .ok [.differs ⟨"old/a.in"⟩, .missing ⟨"old/a.out"⟩, .missing ⟨"old/b.in"⟩,
        .missing ⟨"old/b.out"⟩] := by
    decide +kernel
  have hsummary : ((Suite.pair.store ⟨"old"⟩ : StateM Disk _).run .cluttered).1.summary =
      .ok ⟨⟨"old"⟩, 2, 4⟩ := by
    decide +kernel
  obtain ⟨inspection, hinspect, -⟩ := (inspect_previews_store .pair ⟨"old"⟩).1 .cluttered
  rw [hinspect] at hresult
  refine ⟨hnames, hdots, ?_, hsummary, ?_⟩
  · rw [hinspect]
    exact hresult
  · exact (inspect_previews_store .pair ⟨"old"⟩).2 .cluttered _ inspection _ _ _ hnames hdots
      hinspect hresult (Prod.eta _).symm hsummary

end Conformance
