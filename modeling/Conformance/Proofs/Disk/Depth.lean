import Conformance.Proofs.Disk.Straight

/-!
# How deep paths lead

A path leads at most as deep as it has names, and exactly that deep where it has no two dots. So the
directories that a path leads through never lie below the one that it names.

* **Names** (`Path.depth`): the pieces of a path that are neither empty nor dots. The paths of the
  directories around have no more of them (`Path.depth_le_of_mem_ancestors`).
* **Walking** (`length_le_of_walk`, `le_length_of_walk`): each name leads one step inwards or
  outwards, and only two dots lead outwards.
* **Main statement** (`resolve_ne_of_mem_ancestors`): what lies in a directory whose path has no two
  dots is none of the directories on the way to it.
-/

namespace Conformance

namespace Path

/-! ## Names of paths -/

/-- The number of names in a path, two dots being one. -/
def depth (path : Path) : Nat :=
  (path.pieces.filterMap Component.ofPiece?).length

/-- A piece has a component exactly if it is neither empty nor a dot. -/
lemma Component.ofPiece?_eq_none_iff {piece : String} :
    Component.ofPiece? piece = none ↔ piece = "" ∨ piece = "." := by
  unfold Component.ofPiece?
  split <;> simp_all

/-- The component of a piece has the piece as its text. -/
lemma Component.text_of_ofPiece? {piece : String} {component : Component}
    (h : Component.ofPiece? piece = some component) : component.text = piece := by
  unfold Component.ofPiece? at h
  split at h <;> cases h <;> rfl

/-- The folders of a path are its names, like its pieces. -/
lemma length_filterMap_folders (path : Path) :
    (path.folders.filterMap Component.ofPiece?).length = path.depth := by
  rw [depth]
  by_cases hopen : (path.text.isEmpty || path.text.toList.getLast? = some '/') = true
  · -- nothing comes after the last slash
    have hjoin : path.join ⟨""⟩ = path := by
      simp only [join, hopen, if_true]
      simp [isAbsolute]
    have hpieces := pieces_join path (show '/' ∉ "".toList by decide)
    rw [hjoin] at hpieces
    rw [hpieces, List.filterMap_append]
    simp [Component.ofPiece?]
  · rw [folders, if_neg hopen]

/-- A piece of a path holds no slash. -/
lemma slash_notMem_of_mem_pieces {text piece : String} (h : piece ∈ pieces ⟨text⟩) :
    '/' ∉ piece.toList := by
  induction hlength : text.length using Nat.strongRecOn generalizing text with
  | ind length ih =>
      by_cases hslash : '/' ∈ text.toList
      · obtain ⟨before, after, rfl, hafter⟩ := exists_eq_append_slash hslash
        rw [pieces_append_slash_of_notMem before hafter] at h
        rcases List.mem_append.mp h with hbefore | hlast
        · have hshorter : before.length < length := by
            rw [← hlength, String.length_append, String.length_append]
            have hone : "/".length = 1 := by decide
            omega
          exact ih before.length hshorter hbefore rfl
        · rwa [List.mem_singleton.mp hlast]
      · rw [pieces_eq_singleton hslash] at h
        rwa [List.mem_singleton.mp h]

/-- The text of a component of a path holds no slash. -/
lemma slash_notMem_of_mem_components {path : Path} {component : Component}
    (h : component ∈ path.components) : '/' ∉ component.text.toList := by
  have hcounted : component ∈ path.pieces.filterMap Component.ofPiece? →
      '/' ∉ component.text.toList := by
    intro hmem
    obtain ⟨piece, hpiece, hcomponent⟩ := List.mem_filterMap.mp hmem
    rw [Component.text_of_ofPiece? hcomponent]
    exact slash_notMem_of_mem_pieces hpiece
  have hroot : '/' ∉ Component.root.text.toList := by decide
  have hhere : '/' ∉ Component.here.text.toList := by decide
  unfold components at h
  split at h
  · rcases List.mem_cons.mp h with rfl | hmem
    · exact hroot
    · exact hcounted hmem
  · split at h
    · rcases List.mem_cons.mp h with rfl | hmem
      · exact hhere
      · exact hcounted hmem
    · exact hcounted h

/-- A path with some components has no more names than these. -/
lemma depth_ofComponents_le {components : List Component}
    (h : ∀ component ∈ components, '/' ∉ component.text.toList) :
    (ofComponents components).depth ≤
      (components.filterMap fun component => Component.ofPiece? component.text).length := by
  unfold ofComponents
  split
  · exact Nat.zero_le _
  · exact Nat.zero_le _
  · next hempty hroot =>
      have hpieces : pieces ⟨"/".intercalate (components.map Component.text)⟩ =
          components.map Component.text := by
        have hslash : "/".toList = ['/'] := by decide
        rw [pieces, String.toList_intercalate, hslash, List.splitOn_intercalate]
        · simp [Function.comp_def]
        · simpa using h
        · simpa using hempty
      rw [depth, hpieces, List.filterMap_map]
      exact Nat.le_refl _

/-- The components of a path are its names, but for the first one at most. -/
lemma length_filterMap_components_le (path : Path) :
    (path.components.filterMap fun component => Component.ofPiece? component.text).length ≤
      path.depth := by
  have hcounted := List.length_filterMap_le (fun component => Component.ofPiece? component.text)
    (path.pieces.filterMap Component.ofPiece?)
  unfold components depth
  split
  · exact hcounted
  · split
    · exact hcounted
    · exact hcounted

/-- The paths of the directories around a path are made of its first components. -/
lemma eq_ofComponents_of_mem_ancestors {dir path : Path} (h : path ∈ dir.ancestors) :
    path = dir ∨ ∃ n, path = ofComponents (dir.components.take (n + 1)) := by
  unfold ancestors at h
  split at h
  · cases h
  · rcases List.mem_cons.mp h with rfl | houter
    · exact .inl rfl
    · obtain ⟨n, -, rfl⟩ := List.mem_map.mp houter
      exact .inr ⟨n, rfl⟩

/-- **The directories around** a path have paths with no more names than it. -/
lemma depth_le_of_mem_ancestors {dir path : Path} (h : path ∈ dir.ancestors) :
    path.depth ≤ dir.depth := by
  rcases eq_ofComponents_of_mem_ancestors h with rfl | ⟨n, rfl⟩
  · exact Nat.le_refl _
  · have hfirst := List.take_sublist (n + 1) dir.components
    calc (ofComponents (dir.components.take (n + 1))).depth
        ≤ ((dir.components.take (n + 1)).filterMap
            fun component => Component.ofPiece? component.text).length :=
          depth_ofComponents_le fun component hcomponent =>
            slash_notMem_of_mem_components (hfirst.subset hcomponent)
      _ ≤ (dir.components.filterMap fun component => Component.ofPiece? component.text).length :=
          (hfirst.filterMap _).length_le
      _ ≤ dir.depth := length_filterMap_components_le dir

/-- The directories around an absolute path have absolute paths. -/
lemma isAbsolute_of_mem_ancestors {dir path : Path} (h : path ∈ dir.ancestors)
    (habsolute : dir.isAbsolute = true) : path.isAbsolute = true := by
  rcases eq_ofComponents_of_mem_ancestors h with rfl | ⟨n, rfl⟩
  · exact habsolute
  · unfold components
    rw [if_pos habsolute, List.take_succ_cons]
    cases (dir.pieces.filterMap Component.ofPiece?).take n with
    | nil => rfl
    | cons component components =>
        have hslash : "/".toList = ['/'] := by decide
        unfold isAbsolute ofComponents
        simp [String.toList_intercalate, hslash, Component.text]

end Path

namespace Disk

/-! ## Walking -/

/-- **At most as deep.** Names lead at most one step inwards each. -/
lemma length_le_of_walk {disk : Disk} {names : List String} {here there : Location}
    (h : disk.walk here names = .ok there) :
    there.length ≤ here.length + (names.filterMap Path.Component.ofPiece?).length := by
  induction names generalizing here with
  | nil => exact (Except.ok.inj h) ▸ Nat.le_refl _
  | cons name names ih =>
      obtain ⟨next, hfollow, hrest⟩ := walk_cons_eq_ok_iff.mp h
      have hle := ih hrest
      obtain ⟨-, ⟨hstay, rfl⟩ | ⟨-, rfl⟩ | ⟨⟨hempty, hdot, -⟩, -, -, rfl⟩⟩ :=
        follow_eq_ok_iff.mp hfollow
      · rwa [List.filterMap_cons_none (Path.Component.ofPiece?_eq_none_iff.mpr hstay)]
      · have hmore := ((List.sublist_cons_self name names).filterMap
          Path.Component.ofPiece?).length_le
        rw [List.length_tail] at hle
        omega
      · obtain ⟨component, hcomponent⟩ := Option.ne_none_iff_exists'.mp
          (mt Path.Component.ofPiece?_eq_none_iff.mp (not_or.mpr ⟨hempty, hdot⟩))
        rw [List.filterMap_cons_some hcomponent, List.length_cons]
        rw [List.length_cons] at hle
        omega

/-- **No less deep.** Names other than two dots lead one step inwards each. -/
lemma le_length_of_walk {disk : Disk} {names : List String} {here there : Location}
    (hnames : ∀ name ∈ names, name ≠ "..") (h : disk.walk here names = .ok there) :
    here.length + (names.filterMap Path.Component.ofPiece?).length ≤ there.length := by
  induction names generalizing here with
  | nil => exact (Except.ok.inj h) ▸ Nat.le_refl _
  | cons name names ih =>
      obtain ⟨hname, hnames⟩ := List.forall_mem_cons.mp hnames
      obtain ⟨next, hfollow, hrest⟩ := walk_cons_eq_ok_iff.mp h
      have hle := ih hnames hrest
      obtain ⟨-, ⟨hstay, rfl⟩ | ⟨hup, -⟩ | ⟨-, -, -, rfl⟩⟩ := follow_eq_ok_iff.mp hfollow
      · rwa [List.filterMap_cons_none (Path.Component.ofPiece?_eq_none_iff.mpr hstay)]
      · exact absurd hup hname
      · have hone := List.length_filterMap_le Path.Component.ofPiece? [name]
        rw [← List.singleton_append, List.filterMap_append, List.length_append]
        rw [List.length_singleton] at hone
        rw [List.length_cons] at hle
        omega

/-- **What lies in a directory** whose path has no two dots is not on the way to it. -/
lemma resolve_ne_of_mem_ancestors {disk : Disk} {dir path : Path} {here : Location} {name : String}
    (hdots : .up ∉ dir.components) (henter : disk.enter dir = .ok here)
    (hpath : path ∈ dir.ancestors) : disk.resolve path ≠ .ok (name :: here) := by
  intro hresolve
  have hfolders : ∀ piece ∈ dir.folders ++ [""], piece ≠ ".." := by
    intro piece hpiece
    rcases List.mem_append.mp hpiece with hfolder | hlast
    · rintro rfl
      exact hdots (Path.up_mem_components hfolder)
    · rw [List.mem_singleton.mp hlast]
      decide
  have hstart : (disk.start path).length ≤ (disk.start dir).length := by
    unfold start
    by_cases habsolute : dir.isAbsolute = true
    · simp [habsolute, Path.isAbsolute_of_mem_ancestors hpath habsolute]
    · rw [if_neg habsolute]
      split
      · exact Nat.zero_le _
      · exact Nat.le_refl _
  have hnames := Path.depth_le_of_mem_ancestors hpath
  rw [Path.depth, ← dir.length_filterMap_folders] at hnames
  have hinner := length_le_of_walk (resolve_eq_ok_iff.mp hresolve).2
  have houter := le_length_of_walk hfolders henter
  rw [List.length_cons] at hinner
  rw [List.filterMap_append, List.length_append] at houter
  omega

end Disk

end Conformance
