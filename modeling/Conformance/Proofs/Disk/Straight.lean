import Conformance.Proofs.Disk.Writing

/-!
# Paths that do not lead outwards

What a path finds on a disk, given what is at the location that it leads to after the disk has
grown.

* **Around an entry** (`directory_of_append`): whatever an entry lies in, at any distance, is a
  directory.
* **Walking back in time** (`walk_eq_of_directory`): names without two dots only lead inwards, so
  where they end tells all the locations on the way. If a directory was there before the disk grew,
  the names led to it before.
* **Reading** (`exists_file_of_readText`, `readText_ne_notFound`): what is read is the content of a
  file, and what is there is found.
* **Absence** (`entryAt?_eq_none_of_notFound`): a path that is not found, and that a text is stored
  at later, led to nothing. With two dots in the path of the directory this would not hold: the
  directory before the dots might be missing, and the file be there.
-/

namespace Conformance

/-- The folders of a path are some of its pieces. -/
lemma Path.mem_pieces_of_mem_folders {path : Path} {name : String} (h : name ∈ path.folders) :
    name ∈ path.pieces := by
  unfold folders at h
  split at h
  · exact (List.dropLast_sublist _).subset h
  · exact h

/-- Two dots among the folders of a path are a component of it. -/
lemma Path.up_mem_components {path : Path} (h : ".." ∈ path.folders) :
    Component.up ∈ path.components := by
  have hcounted : Component.up ∈ path.pieces.filterMap Component.ofPiece? :=
    List.mem_filterMap.mpr ⟨"..", mem_pieces_of_mem_folders h, rfl⟩
  unfold components
  split
  · exact List.mem_cons_of_mem _ hcounted
  · split
    · exact List.mem_cons_of_mem _ hcounted
    · exact hcounted

namespace Disk

/-! ## Around an entry -/

/-- What lies in something, at any distance, lies in a directory. -/
lemma directory_of_append {disk : Disk} {inner : List String} {location : Location}
    (h : disk.entryAt? (inner ++ location) = some .directory) :
    disk.entryAt? location = some .directory := by
  induction inner with
  | nil => exact h
  | cons name inner ih =>
      have hpresent : disk.entryAt? (name :: (inner ++ location)) ≠ none := by
        rw [← List.cons_append, h]
        exact nofun
      exact ih (disk.parent_directory name (inner ++ location) hpresent)

/-- Names without two dots lead inwards. -/
lemma exists_append_of_walk {disk : Disk} {names : List String} {here there : Location}
    (hnames : ∀ name ∈ names, name ≠ "..") (h : disk.walk here names = .ok there) :
    ∃ inner, there = inner ++ here := by
  induction names generalizing here with
  | nil => exact ⟨[], (Except.ok.inj h).symm⟩
  | cons name names ih =>
      obtain ⟨hname, hnames⟩ := List.forall_mem_cons.mp hnames
      obtain ⟨next, hfollow, hrest⟩ := walk_cons_eq_ok_iff.mp h
      obtain ⟨inner, rfl⟩ := ih hnames hrest
      obtain ⟨-, ⟨-, rfl⟩ | ⟨hup, -⟩ | ⟨-, -, -, rfl⟩⟩ := follow_eq_ok_iff.mp hfollow
      · exact ⟨inner, rfl⟩
      · exact absurd hup hname
      · exact ⟨inner ++ [name], by rw [List.append_assoc, List.singleton_append]⟩

/-! ## Walking back in time -/

/-- **Names without two dots** led to a directory before the disk grew, if it was there. -/
lemma walk_eq_of_directory {before after : Disk} {names : List String} {here there : Location}
    (hnames : ∀ name ∈ names, name ≠ "..") (h : after.walk here names = .ok there)
    (hthere : before.entryAt? there = some .directory) : before.walk here names = .ok there := by
  induction names generalizing here with
  | nil => exact h
  | cons name names ih =>
      obtain ⟨hname, hnames⟩ := List.forall_mem_cons.mp hnames
      obtain ⟨next, hfollow, hrest⟩ := walk_cons_eq_ok_iff.mp h
      refine walk_cons_eq_ok_iff.mpr ⟨next, ?_, ih hnames hrest⟩
      -- the next location lies around the last one, so it was a directory
      obtain ⟨inner, rfl⟩ := exists_append_of_walk hnames hrest
      have hnext : before.entryAt? next = some .directory := directory_of_append hthere
      rw [follow_eq_ok_iff] at hfollow ⊢
      obtain ⟨-, ⟨hstay, rfl⟩ | ⟨hup, -⟩ | ⟨hplain, hshort, -, rfl⟩⟩ := hfollow
      · exact ⟨hnext, .inl ⟨hstay, rfl⟩⟩
      · exact absurd hup hname
      · have hhere : before.entryAt? here = some .directory :=
          @directory_of_append before [name] here hnext
        exact ⟨hhere, .inr (.inr ⟨hplain, hshort, by rw [hnext]; exact nofun, rfl⟩)⟩

/-- The path of a directory without two dots was entered where it is entered after growth, if a
directory was there. -/
lemma enter_eq_of_directory {before after : Disk} (hgrows : before.Grows after) {dir : Path}
    {here : Location} (hdots : .up ∉ dir.components) (h : after.enter dir = .ok here)
    (hhere : before.entryAt? here = some .directory) : before.enter dir = .ok here := by
  rw [enter, hgrows.start_eq] at h
  refine walk_eq_of_directory ?_ h hhere
  intro name hname
  rcases List.mem_append.mp hname with hname | hname
  · rintro rfl
    exact hdots (Path.up_mem_components hname)
  · rw [List.mem_singleton.mp hname]
    decide

/-! ## Reading -/

/-- Bytes that are read as a text are the bytes of that text. -/
lemma eq_toUTF8_of_fromUTF8? {content : ByteArray} {text : String}
    (h : String.fromUTF8? content = some text) : content = text.toUTF8 := by
  unfold String.fromUTF8? at h
  split at h
  · cases h
    rfl
  · cases h

/-- What is read at a path, by what it leads to. -/
lemma readText_of_resolve {disk : Disk} {path : Path} {location : Location}
    (h : disk.resolve path = .ok location) :
    disk.readText path =
      match disk.entryAt? location with
      | some (.file content) =>
        match String.fromUTF8? content with
        | some text => .ok text
        | none => .error .invalidUtf8
      | some .directory => .error .isDirectory
      | none => .error .notFound := by
  rw [readText, readBytes, h]
  dsimp only
  cases disk.entryAt? location with
  | none => rfl
  | some entry => cases entry <;> rfl

/-- Nothing is read at a path that leads nowhere. -/
lemma readText_of_resolve_error {disk : Disk} {path : Path} {cause : IoError}
    (h : disk.resolve path = .error cause) : disk.readText path = .error cause := by
  rw [readText, readBytes, h]

/-- A text is read only where a path leads to a file with its bytes. -/
lemma exists_file_of_readText {disk : Disk} {path : Path} {text : String}
    (h : disk.readText path = .ok text) :
    ∃ location, disk.resolve path = .ok location ∧
      disk.entryAt? location = some (.file text.toUTF8) := by
  cases hresolve : disk.resolve path with
  | error cause =>
      rw [readText_of_resolve_error hresolve] at h
      cases h
  | ok location =>
      refine ⟨location, rfl, ?_⟩
      rw [readText_of_resolve hresolve] at h
      split at h
      · next content hentry =>
        split at h
        · next read htext =>
          cases h
          rw [hentry, eq_toUTF8_of_fromUTF8? htext]
        · cases h
      · cases h
      · cases h

/-- A text is read exactly where its bytes are. -/
lemma readText_eq_ok_iff {disk : Disk} {path : Path} {text : String} :
    disk.readText path = .ok text ↔ disk.readBytes path = .ok text.toUTF8 := by
  unfold readText
  cases disk.readBytes path with
  | error cause => exact ⟨nofun, nofun⟩
  | ok content =>
      constructor
      · intro h
        dsimp only at h
        split at h
        · next read hread =>
            cases h
            rw [eq_toUTF8_of_fromUTF8? hread]
        · cases h
      · rintro ⟨⟩
        simp only [fromUTF8?_toUTF8]

/-- A path that leads to something is found. -/
lemma readText_ne_notFound {disk : Disk} {path : Path} {location : Location}
    (h : disk.resolve path = .ok location) (hpresent : disk.entryAt? location ≠ none) :
    disk.readText path ≠ .error .notFound := by
  rw [readText_of_resolve h]
  split
  · split
    · exact nofun
    · exact fun heq => absurd (Except.error.inj heq) (by decide)
  · exact fun heq => absurd (Except.error.inj heq) (by decide)
  · contradiction

/-! ## What reading says about a file that is stored later -/

variable {before after : Disk} {dir : Path} {here : Location} {name text : String}

/-- A text that is read is the content of the file that is stored at its path later. -/
lemma Stored.entryAt?_of_readText (h : after.Stored dir here name text)
    (hgrows : before.Grows after) (hname : IsFileName name) {old : String}
    (hread : before.readText (dir.join ⟨name⟩) = .ok old) :
    before.entryAt? (name :: here) = some (.file old.toUTF8) := by
  obtain ⟨location, hresolve, hentry⟩ := exists_file_of_readText hread
  have hsame := hgrows.resolve_eq hresolve
  rw [h.resolve_eq hname] at hsame
  cases hsame
  exact hentry

/-- **Absence.** A path that is not found, and that a text is stored at later, led to nothing. -/
lemma Stored.entryAt?_eq_none_of_notFound (h : after.Stored dir here name text)
    (hgrows : before.Grows after) (hname : IsFileName name) (hdots : .up ∉ dir.components)
    (hread : before.readText (dir.join ⟨name⟩) = .error .notFound) :
    before.entryAt? (name :: here) = none := by
  apply Decidable.byContradiction
  intro hpresent
  have hhere : before.entryAt? here = some .directory :=
    before.parent_directory name here hpresent
  have henter : before.enter dir = .ok here :=
    enter_eq_of_directory hgrows hdots h.room.enter_eq hhere
  have hresolve : before.resolve (dir.join ⟨name⟩) = .ok (name :: here) := by
    rw [resolve_join before dir hname.slash_notMem, h.room.fault_eq, henter]
    exact follow_eq_ok hname hhere h.room.short hpresent
  exact readText_ne_notFound hresolve hpresent hread

end Disk

end Conformance
