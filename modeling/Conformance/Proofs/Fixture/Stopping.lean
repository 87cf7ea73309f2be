import Conformance.Proofs.Disk.Depth
import Conformance.Proofs.Fixture.RoundTrip

/-!
# Where a failed emission stops

What has been done, and what has not, when writing a suite to a directory ends with an error.

* **Contents** (`Disk.contentAt?`): the bytes of the file at a location. New directories leave all
  of them alone.
* **Stopping among texts** (`StopsAt`): some texts are stored and the next one cannot be. That one
  is refused from the start, and for the same cause, since the texts before it have other names
  (`StopsAt.cons`). Every run that fails ends so (`exists_stopsAt`).
* **Stopping at the directory** (`StoppedAtDirectory`) leaves every file as it is.
* **Stopping at a file** (`StoppedAtFile`): it is the first that cannot be written. Those before it
  hold their texts, and it and all other files are as they were. Directories that are created on the
  way are no files; one of them can have the place of a file of the suite only where the path of the
  directory has two dots in it (`resolve_ne_of_mem_ancestors`).
* **Main statement** (`stopped_of_store`): an emission that fails, of a suite whose names hold no
  slash, has stopped at the directory or at a file, and names it.
-/

namespace Conformance

open Disk

/-! ## Contents -/

/-- The bytes of the file at a location, if a file is there. -/
def Disk.contentAt? (disk : Disk) (location : Location) : Option ByteArray :=
  match disk.entryAt? location with
  | some (.file content) => some content
  | _ => none

/-- New directories leave all contents alone. -/
lemma Disk.AddsDirectories.contentAt?_eq {paths : List Path} {before after : Disk}
    (h : AddsDirectories paths before after) (location : Location) :
    after.contentAt? location = before.contentAt? location := by
  unfold contentAt?
  rcases h.entry_eq_or_new location with hsame | ⟨hnone, hnew, -⟩
  · rw [hsame]
  · rw [hnone, hnew]

/-! ## Stopping among texts -/

/-- What a run has done that stores texts in the directory at a path and stops at an entry. -/
structure StopsAt (dir : Path) (stored : List (String × String)) (entry : String × String)
    (cause : IoError) (before after : Disk) : Prop where
  /-- The texts before the entry are stored, and nothing else is touched. -/
  stores : StoresAll dir stored before after
  /-- There was room for each of them from the start. -/
  room : ∀ earlier ∈ stored, ∃ here, before.Room dir here earlier.1
  /-- The entry was refused from the start. -/
  writeText_eq : before.writeText (dir.join ⟨entry.1⟩) entry.2 = .error cause

/-- A run that stops at its first entry has done nothing. -/
lemma StopsAt.nil {dir : Path} {entry : String × String} {cause : IoError} {disk : Disk}
    (h : disk.writeText (dir.join ⟨entry.1⟩) entry.2 = .error cause) :
    StopsAt dir [] entry cause disk disk :=
  ⟨.nil dir disk, nofun, h⟩

/-- **One more write.** A text that is written before others, under a name of its own, is one more
that is stored when the run stops. -/
lemma StopsAt.cons {dir : Path} {stored : List (String × String)} {entry : String × String}
    {cause : IoError} {disk after : Disk} {here : Location} {name text : String}
    (hnames : FileNames ((name, text) :: stored)) (hentry : IsFileName entry.1)
    (hne : entry.1 ≠ name) (room : disk.Room dir here name)
    (h : StopsAt dir stored entry cause (room.put text) after) :
    StopsAt dir ((name, text) :: stored) entry cause disk after := by
  have hfresh : name ∉ stored.map Prod.fst := (List.nodup_cons.mp hnames.nodup).1
  refine ⟨.cons hnames room h.stores, ?_, (room.writeText_put_eq_error_iff hentry hne).mp
    h.writeText_eq⟩
  intro earlier hearlier
  rcases List.mem_cons.mp hearlier with rfl | hearlier
  · exact ⟨here, room⟩
  · obtain ⟨there, hroom⟩ := h.room earlier hearlier
    have hother : earlier.1 ≠ name := fun heq => hfresh (heq ▸ List.mem_map_of_mem hearlier)
    exact ⟨here, (room.of_room_put hother hroom).2⟩

/-- **Every run that fails** stops at one of its entries. -/
lemma exists_stopsAt {dir : Path} {entries : List (String × String)} (hnames : FileNames entries)
    {disk after : Disk} {error : Error}
    (h : (storeFiles (entries.map (entryFile dir)) : StateM Disk _).run disk =
      (some error, after)) :
    ∃ stored entry rest cause, entries = stored ++ entry :: rest ∧
      error = .disk (dir.join ⟨entry.1⟩) cause ∧ StopsAt dir stored entry cause disk after := by
  induction entries generalizing disk with
  | nil => cases h
  | cons first entries ih =>
      rw [List.map_cons, run_storeFiles_cons] at h
      cases hwrite : disk.writeText (entryFile dir first).path (entryFile dir first).text with
      | error cause =>
          rw [hwrite] at h
          cases h
          exact ⟨[], first, entries, cause, rfl, rfl, .nil hwrite⟩
      | ok changed =>
          rw [hwrite] at h
          obtain ⟨here, room, rfl⟩ := (writeText_join_eq_ok_iff
            (hnames.isFileName first List.mem_cons_self)).mp hwrite
          obtain ⟨stored, entry, rest, cause, rfl, herror, hstops⟩ := ih hnames.tail h
          have hmem : entry ∈ stored ++ entry :: rest :=
            List.mem_append_right _ List.mem_cons_self
          have hne : entry.1 ≠ first.1 := fun heq =>
            (List.nodup_cons.mp hnames.nodup).1 (heq ▸ List.mem_map_of_mem hmem)
          have hstored : FileNames (first :: stored) := hnames.of_append
          exact ⟨first :: stored, entry, rest, cause, rfl, herror, .cons hstored
            (hnames.tail.isFileName entry hmem) hne room hstops⟩

/-! ## Stopping at the directory -/

/-- What an emission leaves behind that cannot create its directory. -/
structure StoppedAtDirectory (dir : Path) (cause : IoError) (before after : Disk) : Prop where
  /-- Creating the directory fails, and this is all that is done. -/
  create_eq : (createDirectories dir : StateM Disk _).run before = (.error cause, after)
  /-- The directory was not there. -/
  isDirectory_eq : before.isDirectory dir = false
  /-- All files have the content that they had, and there are no others. -/
  contentAt?_eq : ∀ location, after.contentAt? location = before.contentAt? location
  /-- What is new are directories that the path of the directory leads through. -/
  adds : AddsDirectories dir.ancestors before after

/-- An emission whose directory cannot be created has changed no file. -/
lemma stoppedAtDirectory_of_createDirectories {dir : Path} {cause : IoError} {before after : Disk}
    (h : (createDirectories dir : StateM Disk _).run before = (.error cause, after)) :
    StoppedAtDirectory dir cause before after := by
  have hadds := addsDirectories_of_createDirectories h
  refine ⟨h, ?_, hadds.contentAt?_eq, hadds⟩
  rw [Bool.eq_false_iff]
  intro hdirectory
  rw [run_createDirectories_of_isDirectory hdirectory] at h
  cases h

/-! ## Stopping at a file -/

/-- What an emission leaves behind that has written some files and cannot write the next one. -/
structure StoppedAtFile (dir : Path) (earlier : List StoredFile) (failing : StoredFile)
    (later : List StoredFile) (cause : IoError) (before after : Disk) : Prop where
  /-- Once the directory is there, the earlier files can be written, each for itself, and the
  failing one cannot: it is the first of this kind. -/
  first : ∃ between, (createDirectories dir : StateM Disk _).run before = (.ok (), between) ∧
    (∀ file ∈ earlier, ∃ changed, between.writeText file.path file.text = .ok changed) ∧
    between.writeText failing.path failing.text = .error cause
  /-- The earlier files hold their texts. -/
  readText_eq : ∀ file ∈ earlier, after.readText file.path = .ok file.text
  /-- The failing file and the later ones have the content that they had, if any. -/
  contentAt?_eq_of_mem : ∀ file ∈ failing :: later, ∀ location,
    after.resolve file.path = .ok location →
      after.contentAt? location = before.contentAt? location
  /-- If the directory has a path without two dots, the paths of these files find what they found
  before, be it a file, a directory or nothing. -/
  lookup?_eq : .up ∉ dir.components → ∀ file ∈ failing :: later,
    after.lookup? file.path = before.lookup? file.path
  /-- All other files have the content that they had, and there are no new ones. -/
  contentAt?_eq : ∀ location, (∀ file ∈ earlier, after.resolve file.path ≠ .ok location) →
    after.contentAt? location = before.contentAt? location
  /-- What is no earlier file is as it was, or is a new directory that the path of the directory
  leads through. -/
  frame : ∀ location, (∀ file ∈ earlier, after.resolve file.path ≠ .ok location) →
    after.entryAt? location = before.entryAt? location ∨
      before.entryAt? location = none ∧ after.entryAt? location = some .directory ∧
        ∃ path ∈ dir.ancestors, after.resolve path = .ok location

/-- Paths without two dots find the same before and after, if what lies under their names is the
same. -/
lemma Disk.Grows.lookup?_join_eq {before after : Disk} (hgrows : before.Grows after) {dir : Path}
    {name : String} (hdots : .up ∉ dir.components) (hname : IsFileName name)
    (hsame : ∀ here, after.enter dir = .ok here →
      after.entryAt? (name :: here) = before.entryAt? (name :: here)) :
    after.lookup? (dir.join ⟨name⟩) = before.lookup? (dir.join ⟨name⟩) := by
  unfold lookup?
  cases hbefore : before.resolve (dir.join ⟨name⟩) with
  | ok location =>
      obtain ⟨-, -, here, henter, -, rfl⟩ := (resolve_join_eq_ok_iff hname).mp hbefore
      rw [hgrows.resolve_eq hbefore]
      exact hsame here (hgrows.enter_eq henter)
  | error cause =>
      cases hafter : after.resolve (dir.join ⟨name⟩) with
      | error other => rfl
      | ok location =>
          -- what is found now was there before, and so was the directory around it
          obtain ⟨hfault, hshort, here, henter, hpresent, rfl⟩ :=
            (resolve_join_eq_ok_iff hname).mp hafter
          rw [hsame here henter] at hpresent
          have hhere := before.parent_directory name here hpresent
          have hbefore' := (resolve_join_eq_ok_iff hname).mpr
            ⟨hfault, hshort, here, enter_eq_of_directory hgrows hdots henter hhere, hpresent, rfl⟩
          rw [hbefore] at hbefore'
          cases hbefore'

/-- Files with other names are found elsewhere. -/
lemma FileNames.resolve_ne {dir : Path} {entries more : List (String × String)}
    (hnames : FileNames (entries ++ more)) {other : String × String} (hother : other ∈ more)
    (disk : Disk) (here : Location) :
    ∀ file ∈ entries.map (entryFile dir), disk.resolve file.path ≠ .ok (other.1 :: here) := by
  intro file hfile hresolve
  obtain ⟨entry, hentry, rfl⟩ := List.mem_map.mp hfile
  have hname : IsFileName entry.1 := hnames.isFileName entry (List.mem_append_left _ hentry)
  obtain ⟨-, -, there, -, -, heq⟩ := (resolve_join_eq_ok_iff hname).mp hresolve
  have hnodup := hnames.nodup
  rw [List.map_append, List.nodup_append] at hnodup
  exact hnodup.2.2 _ (List.mem_map_of_mem hentry) _ (List.mem_map_of_mem hother)
    (List.cons.inj heq).1.symm

/-- What no file with a stored text is stays as it was. -/
lemma StoresAll.entryAt?_eq {dir : Path} {entries : List (String × String)} {before after : Disk}
    (h : StoresAll dir entries before after) {location : Location}
    (hlocation : ∀ file ∈ entries.map (entryFile dir), after.resolve file.path ≠ .ok location) :
    after.entryAt? location = before.entryAt? location :=
  h.frame location fun entry hentry => hlocation (entryFile dir entry) (List.mem_map_of_mem hentry)

/-- **A run that stops at an entry**, once the directory is there, leaves all other files alone. -/
lemma StopsAt.stoppedAtFile {dir : Path} {stored rest : List (String × String)}
    {entry : String × String} {cause : IoError} {before between after : Disk}
    (hnames : FileNames (stored ++ entry :: rest))
    (hcreate : (createDirectories dir : StateM Disk _).run before = (.ok (), between))
    (h : StopsAt dir stored entry cause between after) :
    StoppedAtFile dir (stored.map (entryFile dir)) (entryFile dir entry)
      (rest.map (entryFile dir)) cause before after := by
  have hadds := addsDirectories_of_createDirectories hcreate
  have hgrows : before.Grows after := hadds.grows.trans h.stores.grows
  have hstored : ∀ earlier ∈ stored, IsFileName earlier.1 := fun earlier hearlier =>
    hnames.isFileName earlier (List.mem_append_left _ hearlier)
  have hothers : ∀ other ∈ entry :: rest, IsFileName other.1 := fun other hother =>
    hnames.isFileName other (List.mem_append_right _ hother)
  have hcontent : ∀ location, (∀ file ∈ stored.map (entryFile dir),
      after.resolve file.path ≠ .ok location) →
        after.contentAt? location = before.contentAt? location := by
    intro location hlocation
    rw [← hadds.contentAt?_eq location, contentAt?, contentAt?, h.stores.entryAt?_eq hlocation]
  have hframe : ∀ location, (∀ file ∈ stored.map (entryFile dir),
      after.resolve file.path ≠ .ok location) →
        after.entryAt? location = before.entryAt? location ∨
          before.entryAt? location = none ∧ after.entryAt? location = some .directory ∧
            ∃ path ∈ dir.ancestors, after.resolve path = .ok location := by
    intro location hlocation
    rw [h.stores.entryAt?_eq hlocation]
    exact (hadds.entry_eq_or_new location).imp_right fun ⟨hnone, hnew, path, hpath, hresolve⟩ =>
      ⟨hnone, hnew, path, hpath, h.stores.grows.resolve_eq hresolve⟩
  refine
    { first := ⟨between, hcreate, ?_, h.writeText_eq⟩
      readText_eq := ?_
      contentAt?_eq_of_mem := ?_
      lookup?_eq := ?_
      contentAt?_eq := hcontent
      frame := hframe }
  · intro file hfile
    obtain ⟨earlier, hearlier, rfl⟩ := List.mem_map.mp hfile
    obtain ⟨here, room⟩ := h.room earlier hearlier
    exact ⟨room.put earlier.2,
      (writeText_join_eq_ok_iff (hstored earlier hearlier)).mpr ⟨here, room, rfl⟩⟩
  · intro file hfile
    obtain ⟨earlier, hearlier, rfl⟩ := List.mem_map.mp hfile
    obtain ⟨here, hearlier'⟩ := h.stores.stored earlier hearlier
    exact hearlier'.readText_eq (hstored earlier hearlier)
  · intro file hfile location hresolve
    rw [← List.map_cons] at hfile
    obtain ⟨other, hother, rfl⟩ := List.mem_map.mp hfile
    obtain ⟨-, -, here, -, -, rfl⟩ := (resolve_join_eq_ok_iff (hothers other hother)).mp hresolve
    exact hcontent _ (hnames.resolve_ne hother after here)
  · intro hdots file hfile
    rw [← List.map_cons] at hfile
    obtain ⟨other, hother, rfl⟩ := List.mem_map.mp hfile
    refine hgrows.lookup?_join_eq hdots (hothers other hother) fun here henter => ?_
    rcases hframe _ (hnames.resolve_ne hother after here) with hsame | ⟨-, -, path, hpath, hnew⟩
    · exact hsame
    · exact absurd hnew (resolve_ne_of_mem_ancestors hdots henter hpath)

/-! ## All failed emissions -/

/-- The error of an emission that is not complete. -/
lemma Emission.summary_eq_error_iff {emission : Emission} {error : Error} :
    emission.summary = .error error ↔ emission.failure = some error := by
  unfold Emission.summary
  cases emission.failure <;> simp

/-- How an emission of a suite to a directory has ended, by its error. -/
inductive Suite.Stopped (suite : Suite) (dir : Path) (before after : Disk) : Error → Prop where
  /-- The directory could not be created. -/
  | directory {cause : IoError} :
      StoppedAtDirectory dir cause before after → Stopped suite dir before after (.disk dir cause)
  /-- The directory is there, but not all files in it could be written. -/
  | file {earlier later : List StoredFile} {failing : StoredFile} {cause : IoError} :
      suite.files dir = earlier ++ failing :: later →
        StoppedAtFile dir earlier failing later cause before after →
          Stopped suite dir before after (.disk failing.path cause)

/-- **Where a failed emission stops.** Whatever is on a disk, if writing a suite whose names hold no
slash ends with an error, the error names a path and a cause. Either the path is that of the
directory, which could not be created, and no file has changed. Or it is that of the first file, in
the order of the suite, that cannot be written; then the files before it hold their texts, and this
file, those after it and all others are as they were. -/
theorem stopped_of_store (suite : Suite) (dir : Path) {before after : Disk}
    {emission : Emission} {error : Error}
    (hnames : ∀ scenario ∈ suite.scenarios, '/' ∉ scenario.name.toList)
    (hrun : (suite.store dir : StateM Disk _).run before = (emission, after))
    (hsummary : emission.summary = .error error) : suite.Stopped dir before after error := by
  rw [Emission.summary_eq_error_iff] at hsummary
  rcases run_store_cases hrun with ⟨cause, hcreate, rfl⟩ | ⟨between, hcreate, hfiles, -, -⟩
  · rw [← Option.some.inj hsummary]
    exact .directory (stoppedAtDirectory_of_createDirectories hcreate)
  · have hentries := suite.fileNames_entries hnames
    rw [hsummary, suite.files_eq] at hfiles
    obtain ⟨stored, entry, rest, cause, hsplit, rfl, hstops⟩ := exists_stopsAt hentries hfiles
    rw [hsplit] at hentries
    have hfiles : suite.files dir = stored.map (entryFile dir) ++ entryFile dir entry ::
        rest.map (entryFile dir) := by
      rw [suite.files_eq, hsplit, List.map_append, List.map_cons]
    exact .file hfiles (hstops.stoppedAtFile hentries hcreate)

/-- A disk with a directory in which another one has the name of a source file. -/
def Disk.blocked : Disk :=
  Disk.cluttered.put ["old", "work"] "b.in" .directory (by decide +kernel) (by decide +kernel)

/-- A suite is written up to its third file, in whose place a directory is. -/
theorem stopped_of_store_blocked :
    (∀ scenario ∈ Suite.pair.scenarios, '/' ∉ scenario.name.toList) ∧
      ((Suite.pair.store ⟨"old"⟩ : StateM Disk _).run .blocked).1.summary =
        .error (.disk ⟨"old/b.in"⟩ .isDirectory) ∧
      Suite.pair.Stopped ⟨"old"⟩ .blocked
        ((Suite.pair.store ⟨"old"⟩ : StateM Disk _).run .blocked).2
        (.disk ⟨"old/b.in"⟩ .isDirectory) := by
  have hnames : ∀ scenario ∈ Suite.pair.scenarios, '/' ∉ scenario.name.toList := by decide
  have hsummary : ((Suite.pair.store ⟨"old"⟩ : StateM Disk _).run .blocked).1.summary =
      .error (.disk ⟨"old/b.in"⟩ .isDirectory) := by decide +kernel
  exact ⟨hnames, hsummary, stopped_of_store .pair ⟨"old"⟩ hnames (Prod.eta _).symm hsummary⟩

end Conformance
