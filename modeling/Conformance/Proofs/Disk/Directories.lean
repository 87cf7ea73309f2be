import Conformance.Proofs.Disk.Walk

/-!
# Creating directories

What a run that creates a directory and those around it leaves behind, whether or not it succeeds.

* **Existing directories** (`createDirectory_of_isDirectory`): where a directory is, creating one
  fails because something is there already, which the run excuses.
* **New directories** (`createDirectory_eq_ok`): the disk gets one directory where nothing was, and
  the path leads to it.
* **Runs** (`addsDirectories_of_run`): every run leaves all entries as they were, apart from new
  directories at its paths. After a success there is a directory at the path, and a second run
  changes nothing (`run_createDirectories_again`).
-/

namespace Conformance

namespace Disk

/-! ## One directory -/

/-- Empty names and dots stay in a directory. -/
lemma walk_of_forall_stay (disk : Disk) {here : Location} {names : List String}
    (hnames : ∀ name ∈ names, name = "" ∨ name = ".")
    (hhere : disk.entryAt? here = some .directory) : disk.walk here names = .ok here := by
  induction names with
  | nil => rfl
  | cons name names ih =>
      obtain ⟨hstay, hrest⟩ := List.forall_mem_cons.mp hnames
      exact walk_cons_eq_ok_iff.mpr
        ⟨here, follow_eq_ok_iff.mpr ⟨hhere, .inl ⟨hstay, rfl⟩⟩, ih hrest⟩

/-- Empty names and dots lead nowhere else. -/
lemma eq_of_walk_eq_ok {disk : Disk} {here there : Location} {names : List String}
    (hnames : ∀ name ∈ names, name = "" ∨ name = ".") (h : disk.walk here names = .ok there) :
    there = here := by
  induction names with
  | nil => exact (Except.ok.inj h).symm
  | cons name names ih =>
      obtain ⟨hstay, hrest⟩ := List.forall_mem_cons.mp hnames
      obtain ⟨next, hfollow, hwalk⟩ := walk_cons_eq_ok_iff.mp h
      have hnext : next = here := by
        rw [follow, if_pos hstay] at hfollow
        split at hfollow
        · cases hfollow
        · exact (Except.ok.inj hfollow).symm
      rw [hnext] at hwalk
      exact ih hrest hwalk

/-- A path leads to the directory that its last name leads to. -/
lemma resolve_eq_ok {disk : Disk} {path : Path} {outer blanks : List String} {name : String}
    {parent here : Location} (hpieces : path.pieces = outer ++ name :: blanks)
    (hblanks : ∀ blank ∈ blanks, blank = "") (hfault : path.fault? = none)
    (hwalk : disk.walk (disk.start path) outer = .ok parent)
    (hfollow : disk.follow parent name = .ok here)
    (hhere : disk.entryAt? here = some .directory) : disk.resolve path = .ok here := by
  have hstay : ∀ blank ∈ blanks, blank = "" ∨ blank = "." :=
    fun blank hblank => .inl (hblanks blank hblank)
  have hlast : disk.walk parent (name :: blanks) = .ok here :=
    walk_cons_eq_ok_iff.mpr ⟨here, hfollow, disk.walk_of_forall_stay hstay hhere⟩
  rw [resolve_eq_ok_iff, hpieces]
  exact ⟨hfault, walk_append_eq_ok_iff.mpr ⟨parent, hwalk, hlast⟩⟩

/-- A path that leads somewhere leads where its last name does. -/
lemma exists_follow_of_resolve {disk : Disk} {path : Path} {outer blanks : List String}
    {name : String} {here : Location} (hpieces : path.pieces = outer ++ name :: blanks)
    (hblanks : ∀ blank ∈ blanks, blank = "") (h : disk.resolve path = .ok here) :
    ∃ parent, disk.walk (disk.start path) outer = .ok parent ∧
      disk.follow parent name = .ok here := by
  rw [resolve_eq_ok_iff, hpieces] at h
  obtain ⟨parent, hwalk, hlast⟩ := walk_append_eq_ok_iff.mp h.2
  obtain ⟨next, hfollow, hrest⟩ := walk_cons_eq_ok_iff.mp hlast
  rw [eq_of_walk_eq_ok (fun blank hblank => .inl (hblanks blank hblank)) hrest]
  exact ⟨parent, hwalk, hfollow⟩

/-- **No second directory.** Where a directory is, none can be created, because something is there
already and for no other reason. -/
lemma createDirectory_of_isDirectory {disk : Disk} {path : Path}
    (h : disk.isDirectory path = true) :
    disk.createDirectory path = .error .alreadyExists := by
  obtain ⟨here, hresolve, hhere⟩ := isDirectory_iff.mp h
  have hfault := (resolve_eq_ok_iff.mp hresolve).1
  rcases path.pieces_cases with hblanks | ⟨outer, name, blanks, hname, hblanks, hpieces⟩
  · rw [createDirectory, target_of_forall_eq_empty disk hblanks, hfault]
  · obtain ⟨parent, hwalk, hfollow⟩ := exists_follow_of_resolve hpieces hblanks hresolve
    rw [createDirectory, target_of_pieces disk hpieces hname hblanks, hfault, hwalk]
    obtain ⟨hparent, hstay | ⟨hup, -⟩ | ⟨hplain, hshort, -, rfl⟩⟩ := follow_eq_ok_iff.mp hfollow
    · simp [Except.bind, hparent, hstay.1.resolve_left hname]
    · simp [Except.bind, hparent, hup]
    · simp [Except.bind, hparent, hplain, hhere, Nat.not_lt.mpr hshort]

/-- What it takes for a path to name something in a directory. -/
lemma target_eq_within {disk : Disk} {path : Path} {parent : Location} {name : String}
    {marked : Bool} (h : disk.target path = .ok (.within parent name marked)) :
    path.fault? = none ∧ disk.entryAt? parent = some .directory ∧
      (name ≠ "" ∧ name ≠ "." ∧ name ≠ "..") ∧
      ∃ outer blanks, path.pieces = outer ++ name :: blanks ∧ (∀ blank ∈ blanks, blank = "") ∧
        disk.walk (disk.start path) outer = .ok parent := by
  rcases path.pieces_cases with hblanks | ⟨outer, last, blanks, hlast, hblanks, hpieces⟩
  · rw [target_of_forall_eq_empty disk hblanks] at h
    cases hfault : path.fault? <;> simp [hfault] at h
  · rw [target_of_pieces disk hpieces hlast hblanks] at h
    cases hfault : path.fault? with
    | some cause => simp [hfault] at h
    | none =>
        cases hwalk : disk.walk (disk.start path) outer with
        | error cause => simp [hfault, hwalk, Except.bind] at h
        | ok location =>
            by_cases hlocation : disk.entryAt? location = some .directory
            · by_cases hdots : last = "." ∨ last = ".."
              · simp [hfault, hwalk, Except.bind, hlocation, hdots] at h
              · simp only [hfault, hwalk, Except.bind, hlocation, hdots, ne_eq, not_true_eq_false,
                  if_false, Except.ok.injEq, Target.within.injEq] at h
                obtain ⟨rfl, rfl, -⟩ := h
                rw [not_or] at hdots
                exact ⟨rfl, hlocation, ⟨hlast, hdots⟩, outer, blanks, hpieces, hblanks, hwalk⟩
            · simp [hfault, hwalk, Except.bind, hlocation] at h

/-- **A new directory.** Where a directory can be created, nothing was, and it is what the path
leads to afterwards. -/
lemma createDirectory_eq_ok {disk after : Disk} {path : Path}
    (h : disk.createDirectory path = .ok after) :
    ∃ parent name, ∃ (hparent : disk.entryAt? parent = some .directory)
      (hnew : disk.entryAt? (name :: parent) = none),
      after = disk.put parent name .directory hparent (by simp [hnew]) ∧
        after.resolve path = .ok (name :: parent) := by
  rw [createDirectory] at h
  split at h
  · cases h
  · cases h
  · next parent name marked htarget =>
      obtain ⟨hfault, hparent, hplain, outer, blanks, hpieces, hblanks, hwalk⟩ :=
        target_eq_within htarget
      split at h
      · cases h
      · next hshort =>
          split at h
          · next hnew =>
              have hafter := (Except.ok.inj h).symm
              have hgrows : disk.Grows after := hafter ▸ grows_put disk hparent (by simp [hnew])
              have hentry : after.entryAt? (name :: parent) = some .directory := by
                rw [hafter, entryAt?_put, if_pos rfl]
              have hfollow : after.follow parent name = .ok (name :: parent) :=
                follow_eq_ok_iff.mpr ⟨hgrows.directory parent hparent,
                  .inr (.inr ⟨hplain, Nat.not_lt.mp hshort, by simp [hentry], rfl⟩)⟩
              rw [← hgrows.start_eq] at hwalk
              exact ⟨parent, name, hparent, hnew, hafter,
                resolve_eq_ok hpieces hblanks hfault (hgrows.walk_eq hwalk) hfollow hentry⟩
          · cases h

/-! ## Runs -/

/-- What happens to a disk on which only directories are created, at some paths. -/
structure AddsDirectories (paths : List Path) (before after : Disk) : Prop where
  /-- The working directory is the same. -/
  current_eq : after.current = before.current
  /-- Every entry stays as it was, or is a new directory that one of the paths leads to. -/
  entry_eq_or_new : ∀ location, after.entryAt? location = before.entryAt? location ∨
    before.entryAt? location = none ∧ after.entryAt? location = some .directory ∧
      ∃ path ∈ paths, after.resolve path = .ok location

/-- New directories make a disk grow. -/
lemma AddsDirectories.grows {paths : List Path} {before after : Disk}
    (h : AddsDirectories paths before after) : before.Grows after := by
  refine ⟨h.current_eq, ?_, ?_⟩
  · intro location hdirectory
    rcases h.entry_eq_or_new location with hsame | ⟨-, hnew, -⟩
    · rw [hsame, hdirectory]
    · exact hnew
  · intro location hpresent
    rcases h.entry_eq_or_new location with hsame | ⟨hnone, -, -⟩
    · rw [hsame]
      exact hpresent
    · exact absurd hnone hpresent

/-- Nothing may be created. -/
lemma AddsDirectories.refl (paths : List Path) (disk : Disk) : AddsDirectories paths disk disk :=
  ⟨rfl, fun _ => .inl rfl⟩

/-- Directories may be created at more paths, one after the other. -/
lemma AddsDirectories.trans {paths more : List Path} {first second third : Disk}
    (h : AddsDirectories paths first second) (h' : AddsDirectories more second third) :
    AddsDirectories (paths ++ more) first third := by
  refine ⟨h'.current_eq.trans h.current_eq, fun location => ?_⟩
  rcases h'.entry_eq_or_new location with hsame' | ⟨hnone, hnew, path, hpath, hresolve⟩
  · rcases h.entry_eq_or_new location with hsame | ⟨hnone, hnew, path, hpath, hresolve⟩
    · exact .inl (hsame'.trans hsame)
    · exact .inr ⟨hnone, hsame'.trans hnew, path, List.mem_append_left _ hpath,
        h'.grows.resolve_eq hresolve⟩
  · have hbefore : first.entryAt? location = none :=
      Decidable.byContradiction fun hpresent => h.grows.present location hpresent hnone
    exact .inr ⟨hbefore, hnew, path, List.mem_append_right _ hpath, hresolve⟩

/-- The paths may be taken from more of them. -/
lemma AddsDirectories.of_subset {paths more : List Path} {before after : Disk}
    (h : AddsDirectories paths before after) (hsubset : paths ⊆ more) :
    AddsDirectories more before after :=
  ⟨h.current_eq, fun location => (h.entry_eq_or_new location).imp_right
    fun ⟨hnone, hnew, path, hpath, hresolve⟩ => ⟨hnone, hnew, path, hsubset hpath, hresolve⟩⟩

/-- Creating one directory adds it. -/
lemma addsDirectories_of_createDirectory {disk after : Disk} {path : Path}
    (h : disk.createDirectory path = .ok after) : AddsDirectories [path] disk after := by
  obtain ⟨parent, name, hparent, hnew, rfl, hresolve⟩ := createDirectory_eq_ok h
  refine ⟨rfl, fun location => ?_⟩
  rw [entryAt?_put]
  by_cases hlocation : location = name :: parent
  · subst hlocation
    exact .inr ⟨hnew, if_pos rfl, path, List.mem_singleton_self path, hresolve⟩
  · exact .inl (if_neg hlocation)

/-- A run of two computations runs the second from where the first ends. -/
lemma run_bind {α β : Type} (first : StateM Disk α) (next : α → StateM Disk β) (disk : Disk) :
    (first >>= next).run disk = (next (first.run disk).1).run (first.run disk).2 := rfl

/-- What a failure to create a directory comes to, as a value. -/
def excused (disk : Disk) (path : Path) (cause : IoError) : Except IoError Unit :=
  if disk.isDirectory path then .ok () else .error cause

/-- What a run does that creates directories outwards, on the disk it finds. -/
lemma run_createOutward_cons (path : Path) (outer : List Path) (disk : Disk) :
    (createOutward (path :: outer) : StateM Disk _).run disk =
      match disk.createDirectory path with
      | .ok changed => (.ok (), changed)
      | .error cause =>
        if cause = .notFound then
          match (createOutward outer : StateM Disk _).run disk with
          | (.error cause, after) => (.error cause, after)
          | (.ok (), after) =>
            match after.createDirectory path with
            | .ok changed => (.ok (), changed)
            | .error cause => (after.excused path cause, after)
        else (disk.excused path cause, disk) := by
  have hcreate : ∀ disk : Disk, (Storage.createDirectory path : StateM Disk _).run disk =
      match disk.createDirectory path with
      | .ok changed => (.ok (), changed)
      | .error cause => (.error cause, disk) := fun _ => rfl
  rw [createOutward, run_bind, hcreate]
  cases disk.createDirectory path with
  | ok changed => rfl
  | error cause =>
      by_cases hcause : cause = .notFound
      · simp only [if_pos hcause, run_bind]
        rcases (createOutward outer : StateM Disk _).run disk with ⟨_ | ⟨⟨⟩⟩, after⟩
        · rfl
        · simp only [run_bind, hcreate]
          cases after.createDirectory path <;> rfl
      · simp only [if_neg hcause]
        rfl

/-- A failure that is excused is one where a directory is. -/
lemma isDirectory_of_excused {disk : Disk} {path : Path} {cause : IoError}
    (h : disk.excused path cause = .ok ()) : disk.isDirectory path = true := by
  unfold excused at h
  split at h
  · assumption
  · cases h

/-- How a run ends that creates directories outwards: it has created those around or has not come to
it, and then either creates the first one or leaves the disk alone, which it calls a success only
where a directory is. -/
lemma run_createOutward_cases {path : Path} {outer : List Path} {disk after : Disk}
    {result : Except IoError Unit}
    (h : (createOutward (path :: outer) : StateM Disk _).run disk = (result, after)) :
    ∃ between, (between = disk ∨ between = ((createOutward outer : StateM Disk _).run disk).2) ∧
      (between.createDirectory path = .ok after ∨
        after = between ∧ (result = .ok () → between.isDirectory path = true)) := by
  rw [run_createOutward_cons] at h
  cases hcreate : disk.createDirectory path with
  | ok changed =>
      rw [hcreate] at h
      cases h
      exact ⟨disk, .inl rfl, .inl hcreate⟩
  | error cause =>
      rw [hcreate] at h
      by_cases hcause : cause = .notFound
      · simp only [if_pos hcause] at h
        rcases hrun : (createOutward outer : StateM Disk _).run disk with ⟨_ | ⟨⟨⟩⟩, between⟩
        · rw [hrun] at h
          cases h
          exact ⟨after, .inr rfl, .inr ⟨rfl, nofun⟩⟩
        · rw [hrun] at h
          dsimp only at h
          cases hagain : between.createDirectory path with
          | ok changed =>
              rw [hagain] at h
              cases h
              exact ⟨between, .inr rfl, .inl hagain⟩
          | error cause =>
              rw [hagain] at h
              obtain ⟨rfl, rfl⟩ := Prod.mk.inj h
              exact ⟨between, .inr rfl, .inr ⟨rfl, isDirectory_of_excused⟩⟩
      · simp only [if_neg hcause] at h
        obtain ⟨rfl, rfl⟩ := Prod.mk.inj h
        exact ⟨disk, .inl rfl, .inr ⟨rfl, isDirectory_of_excused⟩⟩

/-- **All runs.** A run that creates directories, successful or not, only adds directories at its
paths. -/
lemma addsDirectories_of_run (paths : List Path) :
    ∀ disk : Disk,
      AddsDirectories paths disk ((createOutward paths : StateM Disk _).run disk).2 := by
  induction paths with
  | nil => exact fun disk => .refl [] disk
  | cons path outer ih =>
      intro disk
      obtain ⟨between, hbetween, hlast⟩ := @run_createOutward_cases path outer disk _ _ rfl
      have houter : AddsDirectories outer disk between := by
        rcases hbetween with rfl | rfl
        · exact .refl outer _
        · exact ih disk
      have hpath : AddsDirectories [path] between
          ((createOutward (path :: outer) : StateM Disk _).run disk).2 := by
        rcases hlast with hcreate | ⟨hsame, -⟩
        · exact addsDirectories_of_createDirectory hcreate
        · exact hsame ▸ .refl [path] between
      -- the path itself is created after those around it
      exact (houter.trans hpath).of_subset (by simp)

/-- Creating a directory with those around it, successful or not, only adds directories that its
path leads through. -/
lemma addsDirectories_of_createDirectories {disk after : Disk} {path : Path}
    {result : Except IoError Unit}
    (h : (createDirectories path : StateM Disk _).run disk = (result, after)) :
    AddsDirectories path.ancestors disk after := by
  have hadds := addsDirectories_of_run path.ancestors disk
  change (createOutward path.ancestors : StateM Disk _).run disk = _ at h
  rwa [h] at hadds

/-- A directory is where one was created. -/
lemma isDirectory_of_createDirectory {disk after : Disk} {path : Path}
    (h : disk.createDirectory path = .ok after) : after.isDirectory path = true := by
  obtain ⟨parent, name, hparent, hnew, rfl, hresolve⟩ := createDirectory_eq_ok h
  exact isDirectory_iff.mpr ⟨name :: parent, hresolve, by rw [entryAt?_put, if_pos rfl]⟩

/-- **Success.** After a run that creates directories and succeeds, there is one at its first
path. -/
lemma isDirectory_of_run {disk after : Disk} {path : Path} {outer : List Path}
    (h : (createOutward (path :: outer) : StateM Disk _).run disk = (.ok (), after)) :
    after.isDirectory path = true := by
  obtain ⟨between, -, hcreate | ⟨rfl, hdirectory⟩⟩ := run_createOutward_cases h
  · exact isDirectory_of_createDirectory hcreate
  · exact hdirectory rfl

/-- Where a directory is, a run that creates it has nothing to do. -/
lemma run_createOutward_of_isDirectory {disk : Disk} {path : Path} {outer : List Path}
    (h : disk.isDirectory path = true) :
    (createOutward (path :: outer) : StateM Disk _).run disk = (.ok (), disk) := by
  rw [run_createOutward_cons, createDirectory_of_isDirectory h]
  simp [IoError.alreadyExists, IoError.notFound, excused, h]

/-- A path leads through no directory, or first of all through itself. -/
lemma ancestors_cases (path : Path) :
    path.ancestors = [] ∨ ∃ outer, path.ancestors = path :: outer := by
  unfold Path.ancestors
  split
  · exact .inl rfl
  · exact .inr ⟨_, rfl⟩

/-- Creating a directory that is there is done at once. -/
lemma run_createDirectories_of_isDirectory {disk : Disk} {path : Path}
    (h : disk.isDirectory path = true) :
    (createDirectories path : StateM Disk _).run disk = (.ok (), disk) := by
  unfold createDirectories
  rcases ancestors_cases path with hpaths | ⟨outer, hpaths⟩ <;> rw [hpaths]
  · rfl
  · exact run_createOutward_of_isDirectory h

/-- **A second run** that creates a directory has nothing to do, however the disk has grown since
the first. -/
lemma run_createDirectories_again {disk after later : Disk} {path : Path}
    (h : (createDirectories path : StateM Disk _).run disk = (.ok (), after))
    (hgrows : after.Grows later) :
    (createDirectories path : StateM Disk _).run later = (.ok (), later) := by
  rcases ancestors_cases path with hpaths | ⟨outer, hpaths⟩
  · unfold createDirectories
    rw [hpaths]
    rfl
  · rw [createDirectories, hpaths] at h
    exact run_createDirectories_of_isDirectory (hgrows.isDirectory (isDirectory_of_run h))

end Disk

end Conformance
