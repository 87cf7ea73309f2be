import Conformance.Disk
import Conformance.Proofs.Path.Joining
import Mathlib.Tactic.Lemma

/-!
# Where paths lead

How the walk along a path depends on the disk, and where the names lead that are joined to the path
of a directory.

* **Disks as maps** (`ext_entryAt?`): a disk is its entries and its working directory.
* **Walking** (`follow_eq_ok_iff`, `walk_append`): what one name needs to lead somewhere, and names
  one after the other.
* **Growth** (`Grows`): nothing disappears and directories stay directories. A path that leads
  somewhere leads there still after the disk has grown (`Grows.walk_eq`), so what was found before
  a write need not be looked up again.
* **What a path names** (`target_of_pieces`): something is created at a path by the last name in it,
  in the directory that the names before it lead to.
* **Entering a directory** (`enter`): the location that names joined to a path are looked up in,
  with the check that it is a directory. All that is asked of the disk at a joined path goes through
  it (`target_join`, `resolve_join`).
-/

namespace Conformance

namespace Disk

/-! ## Disks as maps -/

/-- Disks with the same entries and the same working directory are equal. -/
lemma ext_entryAt? {first second : Disk} (hcurrent : first.current = second.current)
    (hentries : ∀ location, first.entryAt? location = second.entryAt? location) :
    first = second := by
  obtain ⟨entries, current, _, _, _⟩ := first
  obtain ⟨entries', current', _, _, _⟩ := second
  have hsame : entries = entries' := Std.ExtTreeMap.ext_getElem? fun {location} => hentries location
  subst hsame
  subst hcurrent
  rfl

/-- Putting the entry that is there already changes nothing. -/
lemma put_of_entryAt?_eq (disk : Disk) {parent : Location} {name : String} {entry : Entry}
    (hparent : disk.entryAt? parent = some .directory)
    (hfree : disk.entryAt? (name :: parent) ≠ some .directory)
    (h : disk.entryAt? (name :: parent) = some entry) :
    disk.put parent name entry hparent hfree = disk := by
  refine ext_entryAt? (by rfl) fun location => ?_
  rw [entryAt?_put]
  by_cases hlocation : location = name :: parent
  · rw [if_pos hlocation, hlocation, h]
  · rw [if_neg hlocation]

/-! ## Walking -/

/-- What it takes for a name to lead from one location to another. -/
lemma follow_eq_ok_iff {disk : Disk} {here there : Location} {name : String} :
    disk.follow here name = .ok there ↔
      disk.entryAt? here = some .directory ∧
        ((name = "" ∨ name = ".") ∧ there = here ∨ name = ".." ∧ there = here.tail ∨
          (name ≠ "" ∧ name ≠ "." ∧ name ≠ "..") ∧ name.utf8ByteSize ≤ nameLimit ∧
            disk.entryAt? (name :: here) ≠ none ∧ there = name :: here) := by
  unfold follow
  by_cases hhere : disk.entryAt? here = some .directory
  · by_cases hstay : name = "" ∨ name = "."
    · rcases hstay with rfl | rfl <;> simp [hhere, @eq_comm _ there]
    · by_cases hup : name = ".."
      · simp [hhere, hup, @eq_comm _ there]
      · by_cases hlong : nameLimit < name.utf8ByteSize
        · simp [hhere, hstay, hup, hlong, Nat.not_le.mpr hlong]
        · have hshort : name.utf8ByteSize ≤ nameLimit := Nat.not_lt.mp hlong
          rw [if_neg (not_not_intro hhere), if_neg hstay, if_neg hup, if_neg hlong]
          rw [not_or] at hstay
          cases hentry : disk.entryAt? (name :: here) <;>
            simp [hhere, hstay, hup, hshort, @eq_comm _ there]
  · simp [hhere]

/-- The empty name stays where it is, if that is a directory. -/
lemma follow_empty (disk : Disk) (here : Location) :
    disk.follow here "" =
      if disk.entryAt? here = some .directory then .ok here else .error .notDirectory := by
  unfold follow
  by_cases hhere : disk.entryAt? here = some .directory <;> simp [hhere]

/-- Names are followed one after the other. -/
lemma walk_append (disk : Disk) (names more : List String) :
    ∀ here, disk.walk here (names ++ more) =
      (disk.walk here names).bind fun next => disk.walk next more := by
  induction names with
  | nil =>
      intro here
      rfl
  | cons name names ih =>
      intro here
      rw [List.cons_append, walk, walk]
      cases disk.follow here name with
      | error cause => rfl
      | ok next => exact ih next

/-- One name is followed by looking it up. -/
lemma walk_singleton (disk : Disk) (here : Location) (name : String) :
    disk.walk here [name] = disk.follow here name := by
  rw [walk]
  cases disk.follow here name <;> rfl

/-- A walk along a name and others goes through what the name leads to. -/
lemma walk_cons_eq_ok_iff {disk : Disk} {here there : Location} {name : String}
    {names : List String} :
    disk.walk here (name :: names) = .ok there ↔
      ∃ next, disk.follow here name = .ok next ∧ disk.walk next names = .ok there := by
  rw [walk]
  cases disk.follow here name <;> simp

/-- A walk along names and others goes through what the names lead to. -/
lemma walk_append_eq_ok_iff {disk : Disk} {here there : Location} {names more : List String} :
    disk.walk here (names ++ more) = .ok there ↔
      ∃ next, disk.walk here names = .ok next ∧ disk.walk next more = .ok there := by
  rw [walk_append]
  cases disk.walk here names <;> simp [Except.bind]

/-- A file can have a path whose text is not empty, not too long and holds no NUL. -/
lemma fault?_eq_none_iff {path : Path} :
    path.fault? = none ↔
      '\x00' ∉ path.text.toList ∧ path.text ≠ "" ∧ path.text.utf8ByteSize ≤ Path.limit := by
  unfold Path.fault?
  by_cases hnul : '\x00' ∈ path.text.toList
  · simp [hnul]
  · by_cases hempty : path.text = ""
    · simp [hempty]
    · simp [hnul, hempty]

/-- A path leads somewhere if a file can have it and the walk along its pieces ends there. -/
lemma resolve_eq_ok_iff {disk : Disk} {path : Path} {location : Location} :
    disk.resolve path = .ok location ↔
      path.fault? = none ∧ disk.walk (disk.start path) path.pieces = .ok location := by
  unfold resolve
  cases path.fault? <;> simp

/-- There is a directory at a path that leads to one. -/
lemma isDirectory_iff {disk : Disk} {path : Path} :
    disk.isDirectory path = true ↔
      ∃ location, disk.resolve path = .ok location ∧
        disk.entryAt? location = some .directory := by
  unfold isDirectory lookup?
  cases disk.resolve path <;> simp

/-- There is a file at a path that leads to one. -/
lemma isFile_iff {disk : Disk} {path : Path} :
    disk.isFile path = true ↔
      ∃ location content, disk.resolve path = .ok location ∧
        disk.entryAt? location = some (.file content) := by
  unfold isFile lookup?
  cases disk.resolve path with
  | error cause => simp
  | ok location =>
      dsimp only
      cases hentry : disk.entryAt? location with
      | none => simp [hentry]
      | some entry => cases entry <;> simp [hentry]

/-! ## Growth -/

/-- A disk after changes that take nothing away and turn no directory into a file. -/
structure Grows (before after : Disk) : Prop where
  /-- The working directory is the same. -/
  current_eq : after.current = before.current
  /-- Directories stay directories. -/
  directory : ∀ location, before.entryAt? location = some .directory →
    after.entryAt? location = some .directory
  /-- What is there stays there, if with another content. -/
  present : ∀ location, before.entryAt? location ≠ none → after.entryAt? location ≠ none

/-- A disk that does not change has grown by nothing. -/
lemma Grows.refl (disk : Disk) : disk.Grows disk :=
  ⟨rfl, fun _ h => h, fun _ h => h⟩

/-- Growth adds up. -/
lemma Grows.trans {first second third : Disk} (h : first.Grows second) (h' : second.Grows third) :
    first.Grows third :=
  ⟨h'.current_eq.trans h.current_eq,
    fun location hdir => h'.directory _ (h.directory location hdir),
    fun location hpresent => h'.present _ (h.present location hpresent)⟩

/-- Putting an entry where no directory is makes a disk grow. -/
lemma grows_put (disk : Disk) {parent : Location} {name : String} {entry : Entry}
    (hparent : disk.entryAt? parent = some .directory)
    (hfree : disk.entryAt? (name :: parent) ≠ some .directory) :
    disk.Grows (disk.put parent name entry hparent hfree) := by
  refine ⟨rfl, ?_, ?_⟩
  · intro location hdirectory
    rw [entryAt?_put, if_neg, hdirectory]
    rintro rfl
    exact hfree hdirectory
  · intro location hpresent
    rw [entryAt?_put]
    by_cases hlocation : location = name :: parent
    · rw [if_pos hlocation]
      exact Option.some_ne_none entry
    · rw [if_neg hlocation]
      exact hpresent

/-- A name that leads to a location leads there still. -/
lemma Grows.follow_eq {before after : Disk} (h : before.Grows after) {here there : Location}
    {name : String} (hfollow : before.follow here name = .ok there) :
    after.follow here name = .ok there := by
  rw [follow_eq_ok_iff] at hfollow ⊢
  obtain ⟨hhere, hstay | hup | ⟨hname, hshort, hpresent, hthere⟩⟩ := hfollow
  · exact ⟨h.directory here hhere, .inl hstay⟩
  · exact ⟨h.directory here hhere, .inr (.inl hup)⟩
  · exact ⟨h.directory here hhere, .inr (.inr ⟨hname, hshort, h.present _ hpresent, hthere⟩)⟩

/-- Names that lead to a location lead there still. -/
lemma Grows.walk_eq {before after : Disk} (h : before.Grows after) {names : List String}
    {here there : Location} (hwalk : before.walk here names = .ok there) :
    after.walk here names = .ok there := by
  induction names generalizing here with
  | nil => exact hwalk
  | cons name names ih =>
      obtain ⟨next, hfollow, hrest⟩ := walk_cons_eq_ok_iff.mp hwalk
      exact walk_cons_eq_ok_iff.mpr ⟨next, h.follow_eq hfollow, ih hrest⟩

/-- A path starts from the same location. -/
lemma Grows.start_eq {before after : Disk} (h : before.Grows after) (path : Path) :
    after.start path = before.start path := by
  rw [start, start, h.current_eq]

/-- A path that leads to a location leads there still. -/
lemma Grows.resolve_eq {before after : Disk} (h : before.Grows after) {path : Path}
    {location : Location} (hresolve : before.resolve path = .ok location) :
    after.resolve path = .ok location := by
  obtain ⟨hfault, hwalk⟩ := resolve_eq_ok_iff.mp hresolve
  refine resolve_eq_ok_iff.mpr ⟨hfault, ?_⟩
  rw [h.start_eq]
  exact h.walk_eq hwalk

/-- A path that leads to a directory leads to a directory still. -/
lemma Grows.isDirectory {before after : Disk} (h : before.Grows after) {path : Path}
    (hdirectory : before.isDirectory path = true) : after.isDirectory path = true := by
  rw [isDirectory_iff] at hdirectory ⊢
  obtain ⟨location, hresolve, hentry⟩ := hdirectory
  exact ⟨location, h.resolve_eq hresolve, h.directory location hentry⟩

/-! ## What a path names -/

/-- Where something is created at a path, by the last name in it. -/
lemma target_of_pieces (disk : Disk) {path : Path} {outer blanks : List String} {name : String}
    (hpieces : path.pieces = outer ++ name :: blanks) (hname : name ≠ "")
    (hblanks : ∀ blank ∈ blanks, blank = "") :
    disk.target path =
      match path.fault? with
      | some cause => .error cause
      | none => (disk.walk (disk.start path) outer).bind fun parent =>
          if disk.entryAt? parent ≠ some .directory then .error .notDirectory
          else if name = "." ∨ name = ".." then .ok .existing
          else .ok (.within parent name (blanks ≠ [])) := by
  have hnames : path.pieces.reverse.dropWhile (· = "") = name :: outer.reverse := by
    rw [hpieces, List.reverse_append, List.reverse_cons, List.append_assoc,
      List.dropWhile_append_of_pos (by simpa using hblanks)]
    simp [hname]
  have hmarked : (path.pieces.getLast? = some "") ↔ blanks ≠ [] := by
    rw [hpieces]
    rcases List.eq_nil_or_concat blanks with rfl | ⟨front, last, rfl⟩
    · simp [hname]
    · have hconcat : outer ++ name :: front.concat last = (outer ++ name :: front) ++ [last] := by
        simp
      rw [hconcat, List.getLast?_concat, hblanks last (by simp)]
      simp
  unfold target
  cases path.fault? with
  | some cause => rfl
  | none =>
      dsimp only
      rw [hnames]
      dsimp only
      rw [List.reverse_reverse]
      cases disk.walk (disk.start path) outer with
      | error cause => rfl
      | ok parent => simp only [Except.bind, hmarked]

/-- A path without any name is the root. -/
lemma target_of_forall_eq_empty (disk : Disk) {path : Path}
    (hblanks : ∀ piece ∈ path.pieces, piece = "") :
    disk.target path =
      match path.fault? with
      | some cause => .error cause
      | none => .ok .existing := by
  have hnames : path.pieces.reverse.dropWhile (· = "") = [] := by
    simpa using @List.dropWhile_append_of_pos _ (fun piece => decide (piece = ""))
      path.pieces.reverse [] (by simpa using hblanks)
  unfold target
  cases path.fault? with
  | some cause => rfl
  | none =>
      dsimp only
      rw [hnames]

/-! ## Entering a directory -/

/-- The name of a file leads to what the directory has under it. -/
lemma follow_eq_ok {disk : Disk} {here : Location} {name : String} (h : IsFileName name)
    (hhere : disk.entryAt? here = some .directory) (hshort : name.utf8ByteSize ≤ nameLimit)
    (hpresent : disk.entryAt? (name :: here) ≠ none) :
    disk.follow here name = .ok (name :: here) :=
  follow_eq_ok_iff.mpr
    ⟨hhere, .inr (.inr ⟨⟨h.ne_empty, h.ne_dot, h.ne_dots⟩, hshort, hpresent, rfl⟩)⟩

/-- The directory at a path, in which names joined to the path are looked up. -/
def enter (disk : Disk) (dir : Path) : Except IoError Location :=
  disk.walk (disk.start dir) (dir.folders ++ [""])

/-- What is entered is a directory. -/
lemma entryAt?_enter {disk : Disk} {dir : Path} {here : Location} (h : disk.enter dir = .ok here) :
    disk.entryAt? here = some .directory := by
  obtain ⟨next, -, hlast⟩ := walk_append_eq_ok_iff.mp h
  rw [walk_singleton, follow_empty] at hlast
  split at hlast
  · next hnext =>
      cases hlast
      exact hnext
  · cases hlast

/-- The empty path enters the working directory. -/
lemma enter_empty (disk : Disk) : disk.enter ⟨""⟩ = .ok disk.current := by
  have hfolders : Path.folders ⟨""⟩ = [] := by decide
  have hcurrent : disk.entryAt? disk.current = some .directory := disk.current_directory
  rw [enter, hfolders, List.nil_append, walk_singleton, follow_empty, start]
  exact if_pos hcurrent

/-- A directory that can be entered is entered at the same location after growth. -/
lemma Grows.enter_eq {before after : Disk} (h : before.Grows after) {dir : Path} {here : Location}
    (henter : before.enter dir = .ok here) : after.enter dir = .ok here := by
  rw [enter] at henter ⊢
  rw [h.start_eq]
  exact h.walk_eq henter

/-- A joined path starts where the path of the directory does. -/
lemma start_join (disk : Disk) (dir : Path) {name : String} (h : Path.isAbsolute ⟨name⟩ = false) :
    disk.start (dir.join ⟨name⟩) = disk.start dir := by
  rw [start, start, Path.isAbsolute_join dir h]

/-- **Creating at a joined path** takes place in the directory. -/
lemma target_join (disk : Disk) (dir : Path) {name : String} (h : IsFileName name) :
    disk.target (dir.join ⟨name⟩) =
      match (dir.join ⟨name⟩).fault? with
      | some cause => .error cause
      | none => (disk.enter dir).map fun here => .within here name false := by
  rw [target_of_pieces disk (Path.pieces_join dir h.slash_notMem) h.ne_empty nofun]
  cases (dir.join ⟨name⟩).fault? with
  | some cause => rfl
  | none =>
      dsimp only
      rw [start_join disk dir (Path.isAbsolute_eq_false h.slash_notMem), enter, walk_append]
      cases disk.walk (disk.start dir) dir.folders with
      | error cause => rfl
      | ok here =>
          change _ = Except.map _ (disk.walk here [""])
          rw [walk_singleton, follow_empty]
          by_cases hhere : disk.entryAt? here = some .directory
          · simp [hhere, h.ne_dot, h.ne_dots, Except.map, Except.bind]
          · simp [hhere, Except.map, Except.bind]

/-- What it takes for a joined path to name something that can be created. -/
lemma target_join_eq_ok_iff {disk : Disk} {dir : Path} {name : String} {target : Target}
    (h : IsFileName name) :
    disk.target (dir.join ⟨name⟩) = .ok target ↔
      (dir.join ⟨name⟩).fault? = none ∧
        ∃ here, disk.enter dir = .ok here ∧ target = .within here name false := by
  rw [target_join disk dir h]
  cases (dir.join ⟨name⟩).fault? <;> cases disk.enter dir <;> simp [Except.map, eq_comm]

/-- **Looking at a joined path** takes place in the directory. -/
lemma resolve_join (disk : Disk) (dir : Path) {name : String} (h : '/' ∉ name.toList) :
    disk.resolve (dir.join ⟨name⟩) =
      match (dir.join ⟨name⟩).fault? with
      | some cause => .error cause
      | none => (disk.enter dir).bind fun here => disk.follow here name := by
  unfold resolve
  cases (dir.join ⟨name⟩).fault? with
  | some cause => rfl
  | none =>
      dsimp only
      rw [Path.pieces_join dir h, start_join disk dir (Path.isAbsolute_eq_false h), enter,
        walk_append, walk_append]
      cases disk.walk (disk.start dir) dir.folders with
      | error cause => rfl
      | ok here =>
          change disk.walk here [name] = Except.bind (disk.walk here [""]) _
          rw [walk_singleton, walk_singleton, follow_empty]
          by_cases hhere : disk.entryAt? here = some .directory
          · rw [if_pos hhere]
            rfl
          · rw [if_neg hhere, follow, if_pos hhere]
            rfl

/-- What it takes for a joined name to lead somewhere: something has to be there. -/
lemma resolve_join_eq_ok_iff {disk : Disk} {dir : Path} {name : String} {location : Location}
    (h : IsFileName name) :
    disk.resolve (dir.join ⟨name⟩) = .ok location ↔
      (dir.join ⟨name⟩).fault? = none ∧ name.utf8ByteSize ≤ nameLimit ∧
        ∃ here, disk.enter dir = .ok here ∧ disk.entryAt? (name :: here) ≠ none ∧
          location = name :: here := by
  rw [resolve_join disk dir h.slash_notMem]
  cases (dir.join ⟨name⟩).fault? with
  | some cause => exact ⟨nofun, fun hfault => absurd hfault.1 (Option.some_ne_none cause)⟩
  | none =>
      constructor
      · intro hfollow
        cases henter : disk.enter dir with
        | error cause =>
            rw [henter] at hfollow
            cases hfollow
        | ok here =>
            rw [henter] at hfollow
            obtain ⟨-, ⟨hstay, -⟩ | ⟨hup, -⟩ | ⟨-, hshort, hpresent, hlocation⟩⟩ :=
              follow_eq_ok_iff.mp hfollow
            · exact absurd hstay (not_or.mpr ⟨h.ne_empty, h.ne_dot⟩)
            · exact absurd hup h.ne_dots
            · exact ⟨rfl, hshort, here, rfl, hpresent, hlocation⟩
      · rintro ⟨-, hshort, here, henter, hpresent, rfl⟩
        rw [henter]
        exact follow_eq_ok h (entryAt?_enter henter) hshort hpresent

end Disk

end Conformance
