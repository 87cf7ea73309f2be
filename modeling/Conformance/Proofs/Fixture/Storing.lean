import Conformance.Fixture.Emission
import Conformance.Proofs.Disk.Writing
import Conformance.Proofs.Fixture.Comparing

/-!
# Storing files one after the other

What a run leaves behind that writes texts under different names of one directory, and what later
runs over the same texts find.

* **Entries** (`FileNames`): the texts are listed with their names, which are names of files and all
  different.
* **Writes in a row** (`StoresAll`): every text is stored and nothing else is touched. One more
  write before the others keeps this (`StoresAll.cons`), since no later one has its name.
* **Runs** (`exists_storesAll`): a run stores the texts up to the first that cannot be written, or
  all of them, which is so where there is room for each (`failure_storeFiles_eq_none_iff`).
* **Later runs** (`run_storeFiles_of_stored`, `run_inspectFiles_of_stored`): where all texts are
  stored, storing them again changes nothing and comparing them finds nothing.
-/

namespace Conformance

open Disk

/-- The file of a text under a name of a directory. -/
def entryFile (dir : Path) (entry : String × String) : StoredFile :=
  ⟨dir.join ⟨entry.1⟩, entry.2⟩

/-- Texts with names under which they can be files of one directory. -/
structure FileNames (entries : List (String × String)) : Prop where
  /-- The names are names of files. -/
  isFileName : ∀ entry ∈ entries, IsFileName entry.1
  /-- No two of them are the same. -/
  nodup : (entries.map Prod.fst).Nodup

/-- The names of the texts after the first. -/
lemma FileNames.tail {entry : String × String} {entries : List (String × String)}
    (h : FileNames (entry :: entries)) : FileNames entries :=
  ⟨fun other hother => h.isFileName other (List.mem_cons_of_mem _ hother),
    (List.nodup_cons.mp h.nodup).2⟩

/-- The names of the first texts. -/
lemma FileNames.of_append {entries more : List (String × String)}
    (h : FileNames (entries ++ more)) : FileNames entries := by
  refine ⟨fun entry hentry => h.isFileName entry (List.mem_append_left _ hentry), ?_⟩
  have hnodup := h.nodup
  rw [List.map_append] at hnodup
  exact (List.nodup_append.mp hnodup).1

/-! ## Writes in a row -/

/-- What happens to a disk on which texts are stored in the directory at a path. -/
structure StoresAll (dir : Path) (entries : List (String × String)) (before after : Disk) :
    Prop where
  /-- Nothing disappears and no directory becomes a file. -/
  grows : before.Grows after
  /-- Every text is stored. -/
  stored : ∀ entry ∈ entries, ∃ here, after.Stored dir here entry.1 entry.2
  /-- What none of the paths leads to is as it was. -/
  frame : ∀ location, (∀ entry ∈ entries, after.resolve (dir.join ⟨entry.1⟩) ≠ .ok location) →
    after.entryAt? location = before.entryAt? location

/-- Nothing is stored on a disk that stays as it is. -/
lemma StoresAll.nil (dir : Path) (disk : Disk) : StoresAll dir [] disk disk :=
  ⟨.refl disk, nofun, fun _ _ => rfl⟩

/-- **One more write.** A text that is written before others, under a name that none of them has, is
stored when they are. -/
lemma StoresAll.cons {dir : Path} {entries : List (String × String)} {disk after : Disk}
    {here : Location} {name text : String} (hnames : FileNames ((name, text) :: entries))
    (room : disk.Room dir here name) (h : StoresAll dir entries (room.put text) after) :
    StoresAll dir ((name, text) :: entries) disk after := by
  have hname : IsFileName name := hnames.isFileName (name, text) List.mem_cons_self
  have hfresh : name ∉ entries.map Prod.fst := (List.nodup_cons.mp hnames.nodup).1
  have henter : after.enter dir = .ok here :=
    ((room.grows_put text).trans h.grows).enter_eq room.enter_eq
  have hsame : after.entryAt? (name :: here) = (room.put text).entryAt? (name :: here) := by
    refine h.frame _ fun entry hentry hresolve => ?_
    obtain ⟨other, hstored⟩ := h.stored entry hentry
    rw [hstored.resolve_eq (hnames.isFileName entry (List.mem_cons_of_mem _ hentry))] at hresolve
    have heq : entry.1 = name := (List.cons.inj (Except.ok.inj hresolve)).1
    exact hfresh (heq ▸ List.mem_map_of_mem hentry)
  have hstored : after.Stored dir here name text := (room.stored_put text).of_grows h.grows hsame
  refine ⟨(room.grows_put text).trans h.grows, ?_, ?_⟩
  · intro entry hentry
    rcases List.mem_cons.mp hentry with rfl | hentry
    · exact ⟨here, hstored⟩
    · exact h.stored entry hentry
  · intro location hlocation
    rw [h.frame location fun entry hentry => hlocation entry (List.mem_cons_of_mem _ hentry)]
    rw [room.entryAt?_put, if_neg]
    rintro rfl
    exact hlocation (name, text) List.mem_cons_self (hstored.resolve_eq hname)

/-! ## Runs -/

/-- What a run does that stores files, on the disk it finds. -/
lemma run_storeFiles_cons (file : StoredFile) (files : List StoredFile) (disk : Disk) :
    (storeFiles (file :: files) : StateM Disk _).run disk =
      match disk.writeText file.path file.text with
      | .ok changed => (storeFiles files : StateM Disk _).run changed
      | .error cause => (some (.disk file.path cause), disk) := by
  have hwrite : (Storage.writeText file.path file.text : StateM Disk _).run disk =
      match disk.writeText file.path file.text with
      | .ok changed => (.ok (), changed)
      | .error cause => (.error cause, disk) := rfl
  rw [storeFiles, run_bind, hwrite]
  cases disk.writeText file.path file.text <;> rfl

/-- **All runs.** A run that stores texts stores those before the first that cannot be written, or
all of them, and does nothing else. -/
lemma exists_storesAll (dir : Path) {entries : List (String × String)} (hnames : FileNames entries)
    {disk after : Disk} {failure : Option Error}
    (h : (storeFiles (entries.map (entryFile dir)) : StateM Disk _).run disk = (failure, after)) :
    ∃ stored rest, entries = stored ++ rest ∧ StoresAll dir stored disk after ∧
      (rest = [] ∧ failure = none ∨
        ∃ entry more cause, rest = entry :: more ∧
          after.writeText (dir.join ⟨entry.1⟩) entry.2 = .error cause ∧
          failure = some (.disk (dir.join ⟨entry.1⟩) cause)) := by
  induction entries generalizing disk with
  | nil =>
      cases h
      exact ⟨[], [], rfl, .nil dir _, .inl ⟨rfl, rfl⟩⟩
  | cons entry entries ih =>
      rw [List.map_cons, run_storeFiles_cons] at h
      cases hwrite : disk.writeText (entryFile dir entry).path (entryFile dir entry).text with
      | error cause =>
          rw [hwrite] at h
          cases h
          exact ⟨[], entry :: entries, rfl, .nil dir _,
            .inr ⟨entry, entries, cause, rfl, hwrite, rfl⟩⟩
      | ok changed =>
          rw [hwrite] at h
          obtain ⟨here, room, rfl⟩ := (writeText_join_eq_ok_iff
            (hnames.isFileName entry List.mem_cons_self)).mp hwrite
          obtain ⟨stored, rest, rfl, hstores, hend⟩ := ih hnames.tail h
          have hfirst : FileNames (entry :: stored) := hnames.of_append
          exact ⟨entry :: stored, rest, rfl, .cons hfirst room hstores, hend⟩

/-- A run that ends without a failure has stored all texts. -/
lemma storesAll_of_run {dir : Path} {entries : List (String × String)} (hnames : FileNames entries)
    {disk after : Disk}
    (h : (storeFiles (entries.map (entryFile dir)) : StateM Disk _).run disk = (none, after)) :
    StoresAll dir entries disk after := by
  obtain ⟨stored, rest, rfl, hstores, ⟨rfl, -⟩ | ⟨entry, more, cause, -, -, hfailure⟩⟩ :=
    exists_storesAll dir hnames h
  · rwa [List.append_nil]
  · cases hfailure

/-- **Whether a run fails** is settled before it writes: it does not where there is room for every
file, and only there. -/
lemma failure_storeFiles_eq_none_iff {dir : Path} {entries : List (String × String)}
    (hnames : FileNames entries) {disk : Disk} :
    ((storeFiles (entries.map (entryFile dir)) : StateM Disk _).run disk).1 = none ↔
      ∀ entry ∈ entries, ∃ here, disk.Room dir here entry.1 := by
  induction entries generalizing disk with
  | nil => exact ⟨fun _ => List.forall_mem_nil _, fun _ => rfl⟩
  | cons entry entries ih =>
      have hname := hnames.isFileName entry List.mem_cons_self
      have hne : ∀ later ∈ entries, later.1 ≠ entry.1 := fun later hlater heq =>
        (List.nodup_cons.mp hnames.nodup).1 (heq ▸ List.mem_map_of_mem hlater)
      rw [List.map_cons, run_storeFiles_cons, List.forall_mem_cons]
      cases hwrite : disk.writeText (entryFile dir entry).path (entryFile dir entry).text with
      | error cause =>
          refine ⟨nofun, ?_⟩
          rintro ⟨⟨here, room⟩, -⟩
          rw [entryFile, (writeText_join_eq_ok_iff hname).mpr ⟨here, room, rfl⟩] at hwrite
          cases hwrite
      | ok changed =>
          obtain ⟨here, room, rfl⟩ := (writeText_join_eq_ok_iff hname).mp hwrite
          rw [ih hnames.tail]
          constructor
          · refine fun hrooms => ⟨⟨here, room⟩, fun later hlater => ?_⟩
            obtain ⟨there, hroom⟩ := hrooms later hlater
            exact ⟨here, (room.of_room_put (hne later hlater) hroom).2⟩
          · rintro ⟨-, hrooms⟩ later hlater
            obtain ⟨there, hroom⟩ := hrooms later hlater
            cases hroom.enter_eq.symm.trans room.enter_eq
            exact ⟨_, room.room_put entry.2 (hne later hlater) hroom⟩

/-! ## Later runs -/

/-- **Storing again** changes nothing where all texts are stored. -/
lemma run_storeFiles_of_stored {dir : Path} {entries : List (String × String)} {disk : Disk}
    (hnames : ∀ entry ∈ entries, IsFileName entry.1)
    (hstored : ∀ entry ∈ entries, ∃ here, disk.Stored dir here entry.1 entry.2) :
    (storeFiles (entries.map (entryFile dir)) : StateM Disk _).run disk = (none, disk) := by
  induction entries with
  | nil => rfl
  | cons entry entries ih =>
      obtain ⟨here, hentry⟩ := hstored entry List.mem_cons_self
      have hwrite := hentry.writeText_eq (hnames entry List.mem_cons_self)
      rw [List.map_cons, run_storeFiles_cons, entryFile, hwrite]
      exact ih (List.forall_mem_cons.mp hnames).2 (List.forall_mem_cons.mp hstored).2

/-- **Comparing** finds no deviation where all texts are stored. -/
lemma run_inspectFiles_of_stored {dir : Path} {entries : List (String × String)} {disk : Disk}
    (hnames : ∀ entry ∈ entries, IsFileName entry.1)
    (hstored : ∀ entry ∈ entries, ∃ here, disk.Stored dir here entry.1 entry.2) :
    (inspectFiles (entries.map (entryFile dir)) : StateM Disk _).run disk =
      (⟨[], none⟩, disk) := by
  have hread : ∀ file ∈ entries.map (entryFile dir), disk.readText file.path = .ok file.text := by
    intro file hfile
    obtain ⟨entry, hentry, rfl⟩ := List.mem_map.mp hfile
    obtain ⟨here, hentry'⟩ := hstored entry hentry
    exact hentry'.readText_eq (hnames entry hentry)
  have hnone : (entries.map (entryFile dir)).filterMap disk.deviation? = [] := by
    rw [List.filterMap_eq_nil_iff]
    intro file hfile
    rw [deviation?, hread file hfile]
    exact if_pos rfl
  rw [run_inspectFiles_of_comparable, hnone]
  intro file hfile cause hcause
  rw [hread file hfile] at hcause
  cases hcause

end Conformance
