import Conformance.Proofs.Fixture.RoundTrip
import Conformance.Proofs.Suite.Attempts

/-!
# Fixtures that keep apart

Names of scenarios are compared character by character, but they are used as parts of paths. Whether
different names are enough for the files of a suite to be different files is settled by what stands
before the last slash of a name and what comes after it.

* **Destinations** (`Disk.destination?`): where the file is that is written at a path. Writing
  changes that entry and no other (`exists_destination_of_writeText`), so what a run changes is at
  the destinations of its files (`exists_destination_of_run`).
* **Separate files** (`Suite.Separate`): on every disk, the files of a suite lie directly in their
  directory, no two of them are one, and a run that writes them changes nothing else.
* **Stems** (`stem`, `Direct`): the stem of a name comes after its last slash. If a name is relative
  and only dots come before, its files are those of its stem (`Direct.destination?_eq_some_iff`).
* **Names that lead elsewhere** (`direct_of_inside`): on a disk with a single directory, any other
  name with a slash has its file outside of it, or nowhere.
* **Main statement** (`separate_iff_stemsApart`): a suite keeps apart in every directory exactly if
  its names have nothing but dots before their stems and no two have one stem. A name without a
  slash is its own stem (`stem_eq_self`), but `a` and `./a` are two scenarios with one pair of files
  (`not_separate_homonyms`).
-/

namespace Conformance

open Disk

/-! ## Destinations -/

/-- The location of the file that is written at a path. -/
def Disk.destination? (disk : Disk) (path : Path) : Option Location :=
  match disk.target path with
  | .ok (.within parent name false) => some (name :: parent)
  | _ => none

namespace Disk

/-- A destination is a name in a directory, without a slash after it. -/
lemma destination?_eq_some_iff {disk : Disk} {path : Path} {location : Location} :
    disk.destination? path = some location ↔
      ∃ parent name, disk.target path = .ok (.within parent name false) ∧
        location = name :: parent := by
  unfold destination?
  split
  · next parent name htarget => simp [htarget, eq_comm]
  · next hother =>
      refine ⟨nofun, ?_⟩
      rintro ⟨parent, name, htarget, -⟩
      exact absurd htarget (hother parent name)

/-- **The destination of a path** is its last piece, in the directory that the others lead to. -/
lemma destination?_of_pieces {disk : Disk} {path : Path} {outer : List String} {name : String}
    {location : Location} (hpieces : path.pieces = outer ++ [name]) (hname : IsFileName name) :
    disk.destination? path = some location ↔
      path.fault? = none ∧ ∃ parent, disk.walk (disk.start path) outer = .ok parent ∧
        disk.entryAt? parent = some .directory ∧ location = name :: parent := by
  rw [destination?_eq_some_iff, target_of_pieces disk hpieces hname.ne_empty nofun]
  cases path.fault? with
  | some cause => simp
  | none =>
      cases disk.walk (disk.start path) outer with
      | error cause => simp [Except.bind]
      | ok there =>
          by_cases hthere : disk.entryAt? there = some .directory
          · simp [Except.bind, hthere, hname.ne_dot, hname.ne_dots]
          · simp [Except.bind, hthere]

/-- A destination stays where it is when the disk grows. -/
lemma Grows.destination?_eq {before after : Disk} (h : before.Grows after) {path : Path}
    {location : Location} (hdestination : before.destination? path = some location) :
    after.destination? path = some location := by
  obtain ⟨parent, name, htarget, rfl⟩ := destination?_eq_some_iff.mp hdestination
  obtain ⟨hfault, hparent, hname, outer, blanks, hpieces, hblanks, hwalk⟩ :=
    target_eq_within htarget
  refine destination?_eq_some_iff.mpr ⟨parent, name, ?_, rfl⟩
  rw [target_of_pieces _ hpieces hname.1 hblanks, hfault] at htarget ⊢
  rw [hwalk] at htarget
  rw [h.start_eq, h.walk_eq hwalk]
  simpa [Except.bind, hparent, h.directory parent hparent, hname] using htarget

/-- **Writing** at a path changes the entry at its destination, and no other. -/
lemma exists_destination_of_writeText {disk after : Disk} {path : Path} {text : String}
    (h : disk.writeText path text = .ok after) :
    ∃ location, disk.destination? path = some location ∧ disk.Grows after ∧
      ∀ other, after.entryAt? other =
        if other = location then some (.file text.toUTF8) else disk.entryAt? other := by
  rw [writeText, writeBytes] at h
  split at h
  · cases h
  · cases h
  · next parent name marked htarget =>
      cases marked with
      | true => cases h
      | false =>
          refine ⟨name :: parent, destination?_eq_some_iff.mpr ⟨parent, name, htarget, rfl⟩, ?_⟩
          rw [if_neg Bool.false_ne_true] at h
          split at h
          · cases h
          · split at h
            · split at h
              · cases h
              · cases h
                exact ⟨grows_put disk _ _, entryAt?_put disk parent name _ _ _⟩
            · cases h

end Disk

/-- **Runs** that write files, complete or not, change only the entries at the destinations of these
files, and each then holds the text of such a file. -/
lemma exists_destination_of_run {files : List StoredFile} {disk after : Disk}
    {failure : Option Error}
    (h : (storeFiles files : StateM Disk _).run disk = (failure, after)) :
    disk.Grows after ∧ ∀ location, after.entryAt? location ≠ disk.entryAt? location →
      ∃ file ∈ files, after.destination? file.path = some location ∧
        after.entryAt? location = some (.file file.text.toUTF8) := by
  induction files generalizing disk with
  | nil =>
      cases h
      exact ⟨.refl _, fun location hchanged => absurd rfl hchanged⟩
  | cons file files ih =>
      rw [run_storeFiles_cons] at h
      cases hwrite : disk.writeText file.path file.text with
      | error cause =>
          rw [hwrite] at h
          cases h
          exact ⟨.refl _, fun location hchanged => absurd rfl hchanged⟩
      | ok changed =>
          rw [hwrite] at h
          obtain ⟨destination, hdestination, hgrows, hentries⟩ :=
            exists_destination_of_writeText hwrite
          obtain ⟨hlater, hrest⟩ := ih h
          refine ⟨hgrows.trans hlater, fun location hchanged => ?_⟩
          by_cases hsame : after.entryAt? location = changed.entryAt? location
          · -- no later file has been written here
            have hlocation : location = destination := by
              by_contra hne
              rw [hsame, hentries, if_neg hne] at hchanged
              exact hchanged rfl
            refine ⟨file, List.mem_cons_self, ?_, ?_⟩
            · rw [hlocation]
              exact (hgrows.trans hlater).destination?_eq hdestination
            · rw [hsame, hentries, if_pos hlocation]
          · obtain ⟨other, hother, hwritten⟩ := hrest location hsame
            exact ⟨other, List.mem_cons_of_mem _ hother, hwritten⟩

/-! ## Separate files -/

/-- How the files of a suite lie in a directory if they keep apart. -/
structure Suite.Separate (suite : Suite) (dir : Path) : Prop where
  /-- There are two files for each scenario. -/
  length_eq : (suite.files dir).length = 2 * suite.size
  /-- Wherever the directory is, a file lies directly in it, if its path is one at all. -/
  inside : ∀ (disk : Disk) (here : Location), disk.enter dir = .ok here →
    ∀ file ∈ suite.files dir, file.path.fault? = none →
      ∃ name, disk.destination? file.path = some (name :: here)
  /-- No two of the files are one. -/
  apart : ∀ (disk : Disk) (here : Location), disk.enter dir = .ok here →
    (suite.files dir).Pairwise fun first second =>
      ∀ location, disk.destination? first.path = some location →
        disk.destination? second.path ≠ some location
  /-- What a run that writes the suite changes, complete or not, is a directory that it creates on
  the way, or one of the files, which then holds its own text. -/
  changes : ∀ (before after : Disk) (emission : Emission),
    (suite.store dir : StateM Disk _).run before = (emission, after) →
      ∀ location, after.entryAt? location ≠ before.entryAt? location →
        (before.entryAt? location = none ∧ after.entryAt? location = some .directory ∧
            ∃ path ∈ dir.ancestors, after.resolve path = .ok location) ∨
          ∃ file ∈ suite.files dir, after.destination? file.path = some location ∧
            after.entryAt? location = some (.file file.text.toUTF8)

/-- **What writing a suite changes** is new directories on the way and its files. -/
lemma changes_of_store {suite : Suite} {dir : Path} {before after : Disk} {emission : Emission}
    (hrun : (suite.store dir : StateM Disk _).run before = (emission, after)) {location : Location}
    (hchanged : after.entryAt? location ≠ before.entryAt? location) :
    (before.entryAt? location = none ∧ after.entryAt? location = some .directory ∧
        ∃ path ∈ dir.ancestors, after.resolve path = .ok location) ∨
      ∃ file ∈ suite.files dir, after.destination? file.path = some location ∧
        after.entryAt? location = some (.file file.text.toUTF8) := by
  rcases run_store_cases hrun with ⟨cause, hcreate, -⟩ | ⟨between, hcreate, hfiles, -, -⟩
  · have hdirectories := addsDirectories_of_createDirectories hcreate
    exact .inl ((hdirectories.entry_eq_or_new location).resolve_left hchanged)
  · have hdirectories := addsDirectories_of_createDirectories hcreate
    obtain ⟨hgrows, hwritten⟩ := exists_destination_of_run hfiles
    by_cases hbetween : after.entryAt? location = between.entryAt? location
    · -- only the directories were created before the files were written
      rw [hbetween] at hchanged
      obtain ⟨hnone, hnew, path, hpath, hresolve⟩ :=
        (hdirectories.entry_eq_or_new location).resolve_left hchanged
      exact .inl ⟨hnone, hbetween.trans hnew, path, hpath, hgrows.resolve_eq hresolve⟩
    · exact .inr (hwritten location hbetween)

/-! ## Stems -/

/-- The part of a name after its last slash. -/
def stem (name : String) : String :=
  (Path.pieces ⟨name⟩).getLast?.getD ""

/-- A name that leads nowhere but to its stem: it is relative, and whatever stands between its
slashes stays in the directory. -/
structure Direct (name : String) : Prop where
  /-- The name does not start with a slash. -/
  relative : Path.isAbsolute ⟨name⟩ = false
  /-- Only dots come before the stem. -/
  stays : ∀ piece ∈ (Path.pieces ⟨name⟩).dropLast, piece = "" ∨ piece = "."

/-- A name without a slash is its own stem. -/
lemma stem_eq_self {name : String} (h : '/' ∉ name.toList) : stem name = name := by
  rw [stem, Path.pieces_eq_singleton h]
  rfl

/-- A stem holds no slash, and it is what an extension is put to. -/
lemma pieces_append_extension (name : String) :
    '/' ∉ (stem name).toList ∧ ∀ extension : String, '/' ∉ extension.toList →
      Path.pieces ⟨name ++ extension⟩ =
        (Path.pieces ⟨name⟩).dropLast ++ [stem name ++ extension] := by
  by_cases hslash : '/' ∈ name.toList
  · obtain ⟨before, last, rfl, hlast⟩ := Path.exists_eq_append_slash hslash
    have hstem : stem (before ++ "/" ++ last) = last := by
      rw [stem, Path.pieces_append_slash_of_notMem before hlast]
      simp
    refine ⟨by rwa [hstem], fun extension hextension => ?_⟩
    have htail : '/' ∉ (last ++ extension).toList := by simp [hlast, hextension]
    rw [hstem, String.append_assoc, Path.pieces_append_slash_of_notMem before htail,
      Path.pieces_append_slash_of_notMem before hlast, List.dropLast_concat]
  · refine ⟨(stem_eq_self hslash).symm ▸ hslash, fun extension hextension => ?_⟩
    rw [stem_eq_self hslash, Path.pieces_eq_singleton hslash, Path.pieces_eq_singleton]
    · rfl
    · simp [hslash, hextension]

/-- A path with an extension is absolute where it is without. -/
lemma isAbsolute_append_extension (name : String) {extension : String}
    (h : '/' ∉ extension.toList) :
    Path.isAbsolute ⟨name ++ extension⟩ = Path.isAbsolute ⟨name⟩ := by
  have hhead : extension.toList.head? ≠ some '/' := fun hhead => h (List.mem_of_mem_head? hhead)
  unfold Path.isAbsolute
  rw [String.toList_append, List.head?_append]
  cases hname : name.toList with
  | nil => simp [hhead]
  | cons first rest => rfl

/-! ## Files of scenarios -/

/-- The extensions that files have. -/
def fixtureExtensions : List String := [sourceExtension, answerExtension]

/-- A name whose source file can have it as its path, in the working directory at least. -/
def HasPath (name : String) : Prop := Path.fault? ⟨sourceName name⟩ = none

/-- The files of a scenario lie at its name with an extension. -/
lemma exists_extension_of_mem_files {dir : Path} {scenario : Scenario} {file : StoredFile}
    (h : file ∈ scenario.files dir) :
    ∃ extension ∈ fixtureExtensions, file.path = dir.join ⟨scenario.name ++ "." ++ extension⟩ := by
  simp only [Scenario.files, List.mem_cons, List.not_mem_nil, or_false] at h
  rcases h with rfl | rfl
  · exact ⟨sourceExtension, List.mem_cons_self, rfl⟩
  · exact ⟨answerExtension, List.mem_cons_of_mem _ List.mem_cons_self, rfl⟩

/-- Extensions hold no slash. -/
lemma slash_notMem_extension :
    ∀ extension ∈ fixtureExtensions, '/' ∉ ("." ++ extension).toList := by
  decide

/-- A stem with an extension is the name of a file. -/
lemma isFileName_stem (name : String) {extension : String} (h : extension ∈ fixtureExtensions) :
    IsFileName (stem name ++ "." ++ extension) := by
  have hstem := (pieces_append_extension name).1
  simp only [fixtureExtensions, List.mem_cons, List.not_mem_nil, or_false] at h
  rcases h with rfl | rfl
  · exact isFileName_sourceName hstem
  · exact isFileName_answerName hstem

/-- Names with an extension tell the name and the extension. -/
lemma eq_of_append_extension {first second extension other : String}
    (hextension : extension ∈ fixtureExtensions) (hother : other ∈ fixtureExtensions)
    (h : first ++ "." ++ extension = second ++ "." ++ other) :
    first = second ∧ extension = other := by
  simp only [fixtureExtensions, List.mem_cons, List.not_mem_nil, or_false] at hextension hother
  rcases hextension with rfl | rfl <;> rcases hother with rfl | rfl
  · exact ⟨sourceName_inj h, rfl⟩
  · exact absurd h (sourceName_ne_answerName first second)
  · exact absurd h.symm (sourceName_ne_answerName second first)
  · exact ⟨answerName_inj h, rfl⟩

/-- Where a file of a scenario can have its path, the name is one that has a path. -/
lemma hasPath_of_fault? {dir : Path} {name extension : String}
    (hextension : extension ∈ fixtureExtensions)
    (h : (dir.join ⟨name ++ "." ++ extension⟩).fault? = none) : HasPath name := by
  obtain ⟨front, hfront⟩ : ∃ front : String,
      (dir.join ⟨name ++ "." ++ extension⟩).text = front ++ (name ++ "." ++ extension) := by
    unfold Path.join
    split
    · exact ⟨"", by simp⟩
    · split
      · exact ⟨_, rfl⟩
      · exact ⟨_, rfl⟩
  have hsize : ∀ extension ∈ fixtureExtensions,
      sourceExtension.utf8ByteSize ≤ extension.utf8ByteSize := by decide
  have hsize := hsize extension hextension
  have hnul : '\x00' ∉ sourceExtension.toList := by decide
  rw [fault?_eq_none_iff, hfront] at h
  obtain ⟨hmem, -, hlimit⟩ := h
  rw [HasPath, fault?_eq_none_iff, sourceName]
  simp only [String.toList_append, List.mem_append, not_or, String.utf8ByteSize_append]
    at hmem hlimit ⊢
  refine ⟨⟨hmem.2.1, hnul⟩, by simp, by omega⟩

/-- **The file of a name that leads nowhere else** is that of its stem in the directory. -/
lemma Direct.destination?_eq_some_iff {name : String} (h : Direct name) {extension : String}
    (hextension : extension ∈ fixtureExtensions) {disk : Disk} {dir : Path} {location : Location} :
    disk.destination? (dir.join ⟨name ++ "." ++ extension⟩) = some location ↔
      (dir.join ⟨name ++ "." ++ extension⟩).fault? = none ∧
        ∃ here, disk.enter dir = .ok here ∧
          location = (stem name ++ "." ++ extension) :: here := by
  have hslash := slash_notMem_extension extension hextension
  have hrelative : Path.isAbsolute ⟨name ++ "." ++ extension⟩ = false := by
    rw [String.append_assoc, isAbsolute_append_extension name hslash, h.relative]
  have hpieces : (dir.join ⟨name ++ "." ++ extension⟩).pieces =
      (dir.folders ++ (Path.pieces ⟨name⟩).dropLast) ++ [stem name ++ "." ++ extension] := by
    rw [dir.pieces_join_of_relative hrelative, String.append_assoc,
      (pieces_append_extension name).2 _ hslash, List.append_assoc, String.append_assoc]
  rw [destination?_of_pieces hpieces (isFileName_stem name hextension),
    start_join disk dir hrelative]
  refine and_congr_right fun _ => ?_
  constructor
  · rintro ⟨parent, hwalk, hparent, rfl⟩
    obtain ⟨here, hfolders, hstays⟩ := walk_append_eq_ok_iff.mp hwalk
    cases eq_of_walk_eq_ok h.stays hstays
    refine ⟨parent, walk_append_eq_ok_iff.mpr ⟨parent, hfolders, ?_⟩, rfl⟩
    rw [walk_singleton, follow_empty, if_pos hparent]
  · rintro ⟨here, henter, rfl⟩
    have hhere := entryAt?_enter henter
    obtain ⟨parent, hfolders, hlast⟩ := walk_append_eq_ok_iff.mp henter
    cases eq_of_walk_eq_ok (by simp) hlast
    exact ⟨here, walk_append_eq_ok_iff.mpr
      ⟨here, hfolders, disk.walk_of_forall_stay h.stays hhere⟩, hhere, rfl⟩

/-! ## Stems that keep apart -/

/-- The names of a suite lead to files of their own, as far as files can have them. -/
structure Suite.StemsApart (suite : Suite) : Prop where
  /-- They lead nowhere but to their stems. -/
  direct : ∀ name ∈ suite.names, HasPath name → Direct name
  /-- No two of them have one stem. -/
  apart : suite.names.Pairwise fun first second =>
    HasPath first → HasPath second → stem first ≠ stem second

/-- Two files with one destination have one stem and one extension. -/
lemma stem_eq_of_destination? {first second extension other : String}
    (hfirst : HasPath first → Direct first) (hsecond : HasPath second → Direct second)
    (hextension : extension ∈ fixtureExtensions) (hother : other ∈ fixtureExtensions)
    {disk : Disk} {dir : Path} {location : Location}
    (h : disk.destination? (dir.join ⟨first ++ "." ++ extension⟩) = some location)
    (h' : disk.destination? (dir.join ⟨second ++ "." ++ other⟩) = some location) :
    HasPath first ∧ HasPath second ∧ stem first = stem second ∧ extension = other := by
  have hfault : ∀ {path : Path}, disk.destination? path = some location → path.fault? = none := by
    intro path hpath
    obtain ⟨parent, name, htarget, -⟩ := destination?_eq_some_iff.mp hpath
    exact (target_eq_within htarget).1
  have hpath := hasPath_of_fault? hextension (hfault h)
  have hpath' := hasPath_of_fault? hother (hfault h')
  obtain ⟨-, here, -, rfl⟩ := ((hfirst hpath).destination?_eq_some_iff hextension).mp h
  obtain ⟨-, there, -, heq⟩ := ((hsecond hpath').destination?_eq_some_iff hother).mp h'
  exact ⟨hpath, hpath', eq_of_append_extension hextension hother (List.cons.inj heq).1⟩

/-- **Stems that keep apart** keep the files apart, in every directory. -/
lemma Suite.StemsApart.separate {suite : Suite} (h : suite.StemsApart) (dir : Path) :
    suite.Separate dir := by
  have hdirect : ∀ scenario ∈ suite.scenarios, HasPath scenario.name → Direct scenario.name :=
    fun scenario hscenario => h.direct _ (List.mem_map_of_mem hscenario)
  have hstems := h.apart
  rw [Suite.names, List.pairwise_map] at hstems
  refine ⟨length_flatMap_files dir suite.scenarios, ?_, ?_,
    fun _ _ _ hrun _ => changes_of_store hrun⟩
  · intro disk here henter file hfile hfault
    obtain ⟨scenario, hscenario, hfile⟩ := List.mem_flatMap.mp hfile
    obtain ⟨extension, hextension, hpath⟩ := exists_extension_of_mem_files hfile
    rw [hpath] at hfault ⊢
    have hname := hdirect scenario hscenario (hasPath_of_fault? hextension hfault)
    exact ⟨_, (hname.destination?_eq_some_iff hextension).mpr ⟨hfault, here, henter, rfl⟩⟩
  · intro disk here _
    rw [Suite.files, List.pairwise_flatMap]
    constructor
    · intro scenario hscenario
      have hname := hdirect scenario hscenario
      rw [Scenario.files, List.pairwise_pair]
      intro location hsource hanswer
      have hsame := stem_eq_of_destination? hname hname List.mem_cons_self
        (List.mem_cons_of_mem _ List.mem_cons_self) hsource hanswer
      exact absurd hsame.2.2.2 (by decide)
    · refine hstems.imp_of_mem ?_
      intro first second hfirst hsecond hne file hfile other hother location hlocation hsame
      obtain ⟨extension, hextension, hpath⟩ := exists_extension_of_mem_files hfile
      obtain ⟨extension', hextension', hpath'⟩ := exists_extension_of_mem_files hother
      rw [hpath] at hlocation
      rw [hpath'] at hsame
      obtain ⟨hhas, hhas', hstem, -⟩ := stem_eq_of_destination? (hdirect first hfirst)
        (hdirect second hsecond) hextension hextension' hlocation hsame
      exact hne hhas hhas' hstem

/-! ## Names that lead elsewhere -/

/-- The disk with nothing but a working directory of a given name in its root. -/
def Disk.alone (name : String) : Disk where
  entries := (({} : Std.ExtTreeMap Location Entry).insert [] .directory).insert [name] .directory
  current := [name]
  root_directory := by
    rw [Std.ExtTreeMap.getElem?_insert, if_neg (by simp), Std.ExtTreeMap.getElem?_insert_self]
  parent_directory := by
    intro inner parent
    simp only [Std.ExtTreeMap.getElem?_insert, Std.LawfulEqOrd.compare_eq_iff_eq]
    cases parent with
    | nil => simp
    | cons outer rest => simp
  current_directory := Std.ExtTreeMap.getElem?_insert_self

/-- Below the root there is nothing but the directory. -/
lemma Disk.entryAt?_alone {name inner : String} {parent : Location}
    (h : (alone name).entryAt? (inner :: parent) ≠ none) : inner = name ∧ parent = [] := by
  simp only [alone, entryAt?, Std.ExtTreeMap.getElem?_insert, Std.LawfulEqOrd.compare_eq_iff_eq]
    at h
  by_cases hsame : [name] = inner :: parent
  · exact ⟨(List.cons.inj hsame).1.symm, (List.cons.inj hsame).2.symm⟩
  · simp [hsame] at h

/-- A walk along other names that ends in the directory has been there all the time. -/
lemma Disk.walk_alone {name : String} {names : List String} (hname : name ∉ names)
    {here : Location} (h : (alone name).walk here names = .ok [name]) :
    here = [name] ∧ ∀ piece ∈ names, piece = "" ∨ piece = "." := by
  induction names generalizing here with
  | nil => exact ⟨Except.ok.inj h, List.forall_mem_nil _⟩
  | cons piece names ih =>
      obtain ⟨hne, hnames⟩ := not_or.mp (mt List.mem_cons.mpr hname)
      obtain ⟨next, hfollow, hrest⟩ := walk_cons_eq_ok_iff.mp h
      obtain ⟨rfl, hstay⟩ := ih hnames hrest
      obtain ⟨hhere, ⟨hpiece, rfl⟩ | ⟨-, hup⟩ | ⟨-, -, hpresent, hnext⟩⟩ :=
        follow_eq_ok_iff.mp hfollow
      · exact ⟨rfl, List.forall_mem_cons.mpr ⟨hpiece, hstay⟩⟩
      · cases here with
        | nil => cases hup
        | cons outer rest =>
            obtain ⟨-, rfl⟩ := entryAt?_alone (hhere ▸ Option.some_ne_none _)
            cases hup
      · exact absurd (entryAt?_alone hpresent).1.symm hne

/-- A text that is longer than some others is none of them. -/
lemma exists_text_notMem (texts : List String) : ∃ text, text ∉ texts := by
  obtain ⟨bound, hbound⟩ : ∃ bound, ∀ text ∈ texts, text.length ≤ bound := by
    induction texts with
    | nil => exact ⟨0, nofun⟩
    | cons text texts ih =>
        obtain ⟨bound, hbound⟩ := ih
        refine ⟨max text.length bound, List.forall_mem_cons.mpr ⟨Nat.le_max_left _ _, ?_⟩⟩
        exact fun other hother => Nat.le_trans (hbound other hother) (Nat.le_max_right _ _)
  refine ⟨String.ofList (List.replicate (bound + 1) 'w'), fun hmem => ?_⟩
  have hlength := hbound _ hmem
  simp only [String.length_ofList, List.length_replicate] at hlength
  omega

/-- **A name whose file lies in the directory** on a disk with no other leads nowhere but to its
stem. -/
lemma direct_of_inside {name place inner : String} (hplace : place ∉ (Path.pieces ⟨name⟩).dropLast)
    (h : (Disk.alone place).destination? ⟨sourceName name⟩ = some [inner, place]) :
    Direct name := by
  have hslash := slash_notMem_extension sourceExtension List.mem_cons_self
  have hpieces : Path.pieces ⟨sourceName name⟩ =
      (Path.pieces ⟨name⟩).dropLast ++ [stem name ++ "." ++ sourceExtension] := by
    rw [sourceName, String.append_assoc, (pieces_append_extension name).2 _ hslash,
      String.append_assoc]
  obtain ⟨-, parent, hwalk, -, heq⟩ :=
    (destination?_of_pieces hpieces (isFileName_stem name List.mem_cons_self)).mp h
  obtain ⟨-, rfl⟩ := List.cons.inj heq
  obtain ⟨hstart, hstays⟩ := walk_alone hplace hwalk
  refine ⟨?_, hstays⟩
  rw [← isAbsolute_append_extension name hslash, ← String.append_assoc, ← sourceName]
  by_contra habsolute
  rw [Bool.not_eq_false] at habsolute
  rw [start, if_pos habsolute] at hstart
  cases hstart

/-- **Files that keep apart** in the working directory have stems that do. -/
lemma Suite.Separate.stemsApart {suite : Suite} (h : suite.Separate ⟨""⟩) : suite.StemsApart := by
  have hdirect : ∀ name ∈ suite.names, HasPath name → Direct name := by
    intro name hname hpath
    obtain ⟨scenario, hscenario, rfl⟩ := List.mem_map.mp hname
    obtain ⟨place, hplace⟩ := exists_text_notMem (Path.pieces ⟨scenario.name⟩).dropLast
    have hfile : ⟨sourcePath ⟨""⟩ scenario.name, scenario.sourceText⟩ ∈ suite.files ⟨""⟩ :=
      List.mem_flatMap.mpr ⟨scenario, hscenario, List.mem_cons_self⟩
    obtain ⟨inner, hinside⟩ := h.inside (alone place) _ (enter_empty _) _ hfile
      (by rwa [sourcePath_eq, Path.empty_join])
    rw [sourcePath_eq, Path.empty_join] at hinside
    exact direct_of_inside hplace hinside
  refine ⟨hdirect, ?_⟩
  have hapart := h.apart .bare _ (enter_empty _)
  rw [Suite.files, List.pairwise_flatMap] at hapart
  rw [Suite.names, List.pairwise_map]
  refine hapart.2.imp_of_mem ?_
  intro first second hfirst hsecond hne hpath hpath' heq
  have hlocation : ∀ scenario ∈ suite.scenarios, HasPath scenario.name →
      Disk.bare.destination? (sourcePath ⟨""⟩ scenario.name) =
        some ((stem scenario.name ++ "." ++ sourceExtension) :: Disk.bare.current) := by
    intro scenario hscenario hhas
    have hname := hdirect scenario.name (List.mem_map_of_mem hscenario) hhas
    refine (hname.destination?_eq_some_iff List.mem_cons_self).mpr ⟨?_, _, enter_empty _, rfl⟩
    rw [Path.empty_join]
    exact hhas
  refine hne _ List.mem_cons_self _ List.mem_cons_self _ (hlocation first hfirst hpath) ?_
  rw [hlocation second hsecond hpath', heq]

/-- **Stems decide.** The files of a suite keep apart in every directory if and only if the names
that files can have lead nowhere but to their stems, and no two of them have one stem. -/
theorem separate_iff_stemsApart (suite : Suite) :
    (∀ dir, suite.Separate dir) ↔ suite.StemsApart :=
  ⟨fun h => (h ⟨""⟩).stemsApart, fun h => h.separate⟩

/-- Two scenarios whose names are different texts and the same path. -/
def Suite.homonyms : Suite :=
  Suite.empty.run
    [⟨"a", "first", .rejected .missingMain⟩, ⟨"./a", "second", .rejected .missingMain⟩]

/-- Both scenarios are accepted, and writing them is said to be complete with four files. But they
share their files: the source of the first is lost, as a comparison right after the emission
tells. -/
theorem not_separate_homonyms :
    Suite.homonyms.names = ["a", "./a"] ∧
      ((Suite.homonyms.store ⟨"d"⟩ : StateM Disk _).run .bare).1.summary = .ok ⟨⟨"d"⟩, 2, 4⟩ ∧
      ((Suite.homonyms.inspect ⟨"d"⟩ : StateM Disk _).run
        ((Suite.homonyms.store ⟨"d"⟩ : StateM Disk _).run .bare).2).1.result =
          .ok [.differs ⟨"d/a.in"⟩] ∧
      ¬Suite.homonyms.Separate ⟨"d"⟩ := by
  refine ⟨by decide +kernel, by decide +kernel, by decide +kernel, fun hseparate => ?_⟩
  have henter : ((Suite.homonyms.store ⟨"d"⟩ : StateM Disk _).run .bare).2.enter ⟨"d"⟩ =
      .ok ["d", "work"] := by decide +kernel
  have hsame : ¬(Suite.homonyms.files ⟨"d"⟩).Pairwise fun first second =>
      ∀ location ∈ (((Suite.homonyms.store ⟨"d"⟩ : StateM Disk _).run .bare).2.destination?
          first.path),
        ((Suite.homonyms.store ⟨"d"⟩ : StateM Disk _).run .bare).2.destination? second.path ≠
          some location := by
    decide +kernel
  exact hsame (hseparate.apart _ _ henter)

end Conformance
