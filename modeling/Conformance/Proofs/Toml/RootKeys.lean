import Conformance.Toml.Document
import Mathlib.Data.List.Induction
import Mathlib.Data.List.Nodup
import Mathlib.Tactic.Lemma

/-!
# The keys of a document's root

The root of a document is built statement by statement. A statement names one key of the root; it
sets a value there, or opens a table under the key, perhaps far below it.

* **One statement** (`assign_eq_some_iff`, `opens_assign`, `opens_place`): a value is set under a
  key that is free, and put last. Everything else makes a table of what is under the key (`Opens`)
  and leaves the other entries alone.
* **Order** (`named`, `keyOrder`): a key stands where it is first named, but a table that gets its
  own header after longer ones stands at that header. The keys are different, in the order of the
  statements, and none that is named is missing.
* **All statements** (`ofStatements_document`): this is so for the root of every document.
* **Values and tables** (`statements_of_values`, `document?_eq_some_iff_of_statements`): if nothing
  in the root is a table, the statements set the values of the root; statements that set values
  under different keys make a root of just these values.
-/

namespace Conformance.Toml

/-- Whether an item is a table or an array of tables. -/
def Item.isTable : Item → Bool
  | .table _ _ => true
  | .tables _ => true
  | _ => false

/-- No entry is found under a key exactly if no entry has the key. -/
lemma Entries.find?_eq_none_iff {entries : Entries} {key : Key} :
    entries.find? key = none ↔ ∀ entry ∈ entries, entry.key.text ≠ key.text := by
  simp [Entries.find?]

/-- An entry is found under a key exactly if some entry has the key. -/
lemma Entries.isSome_find?_iff {entries : Entries} {key : Key} :
    (entries.find? key).isSome = true ↔ ∃ entry ∈ entries, entry.key.text = key.text := by
  simp [Entries.find?]

/-! ## One statement -/

/-- How a statement that opens a table under a key changes the entries around it; `own` says whether
it is the header of that table. -/
inductive Opens (own : Bool) (key : Key) (entries : Entries) : Entries → Prop where
  /-- The key is free: a table is put last. -/
  | added (entry : Entry Item) (key_eq : entry.key = key) (isTable : entry.item.isTable = true)
      (absent : entries.find? key = none) : Opens own key entries (entries ++ [entry])
  /-- What is under the key stays where it is, as a table with other entries. -/
  | changed (change : Entry Item → Entry Item) (key_eq : ∀ entry, (change entry).key = entry.key)
      (isTable : ∀ entry, (change entry).item.isTable = true)
      (present : (entries.find? key).isSome = true) (own_eq : own = false) :
      Opens own key entries
        (entries.map fun entry => if entry.key.text = key.text then change entry else entry)
  /-- A table under the key gets its own header, and is put last. -/
  | moved (entry : Entry Item) (key_eq : entry.key = key) (isTable : entry.item.isTable = true)
      (own_eq : own = true) : Opens own key entries (entries.without key ++ [entry])

/-- A path opens a table under its first key. -/
lemma opens_within {make : TableKind} {change : TableKind → Entries → Option Entries} {key : Key}
    {path : List Key} {kind : TableKind} {entries after : Entries}
    (h : within make change (key :: path) kind entries = some after) :
    Opens false key entries after := by
  rw [within] at h
  split at h
  · next hfind =>
    obtain ⟨inner, -, rfl⟩ := Option.map_eq_some_iff.mp h
    exact .added _ rfl rfl hfind
  · next passed _ hfind =>
    split at h
    · obtain ⟨inner, -, rfl⟩ := Option.map_eq_some_iff.mp h
      exact .changed (fun entry => { entry with item := .table passed inner }) (fun _ => rfl)
        (fun _ => rfl) (by rw [hfind]; rfl) rfl
    · cases h
  · next all hfind =>
    split at h
    · cases h
    · obtain ⟨last, -, rfl⟩ := Option.map_eq_some_iff.mp h
      exact .changed (fun entry => { entry with item := .tables (all.dropLast ++ [last]) })
        (fun _ => rfl) (fun _ => rfl) (by rw [hfind]; rfl) rfl
  · cases h

/-- A key of a table in a statement that names it. -/
structure Mention where
  /-- The key. -/
  key : Key
  /-- Whether the statement is the header of the one table under the key. -/
  own : Bool

/-- The key that an assignment names in the table where it stands: the first of its path. -/
def Assignment.mention (assignment : Assignment) : Mention :=
  ⟨assignment.path.head?.getD assignment.entry.key, false⟩

/-- The key of the root that a header names: the first of its path. -/
def Section.mention (part : Section) : Mention :=
  ⟨part.path.head?.getD part.key, part.path.isEmpty && !part.repeated⟩

/-- **A value** is set under a key that is free, and put last. -/
lemma assign_eq_some_iff {entries after : Entries} {assignment : Assignment}
    (hpath : assignment.path = []) :
    assign entries assignment = some after ↔
      entries.find? assignment.entry.key = none ∧ after = entries ++ [assignment.entry] := by
  rw [assign, hpath, within]
  cases entries.find? assignment.entry.key <;> simp [eq_comm]

/-- A dotted key opens a table under its first part. -/
lemma opens_assign {entries after : Entries} {assignment : Assignment}
    (hpath : assignment.path ≠ []) (h : assign entries assignment = some after) :
    Opens false assignment.mention.key entries after := by
  obtain ⟨key, path, hkey⟩ := List.exists_cons_of_ne_nil hpath
  rw [assign, hkey] at h
  rw [Assignment.mention, hkey]
  exact opens_within h

/-- **A header** opens a table under its first part. -/
lemma opens_place {root after : Entries} {part : Section} (h : place root part = some after) :
    Opens part.mention.own part.mention.key root after := by
  rw [place] at h
  rw [Section.mention]
  cases hpath : part.path with
  | cons key path =>
      rw [hpath] at h
      exact opens_within h
  | nil =>
      rw [hpath, within] at h
      rw [List.head?_nil, Option.getD_none, List.isEmpty_nil, Bool.true_and]
      split at h
      · next hfind =>
        obtain ⟨own, -, rfl⟩ := Option.map_eq_some_iff.mp h
        exact .added _ rfl rfl hfind
      · next hrepeated hfind =>
        obtain ⟨own, -, rfl⟩ := Option.map_eq_some_iff.mp h
        exact .moved _ rfl rfl (by rw [hrepeated]; rfl)
      · next hfind =>
        obtain ⟨own, -, rfl⟩ := Option.map_eq_some_iff.mp h
        exact .added _ rfl rfl hfind
      · next all hrepeated hfind =>
        obtain ⟨own, -, rfl⟩ := Option.map_eq_some_iff.mp h
        exact .changed (fun entry =>
            { entry with
              stretch := ⟨entry.stretch.start, part.stretch.stop⟩
              item := .tables (all ++ [own]) })
          (fun _ => rfl) (fun _ => rfl) (by rw [hfind]; rfl) (by rw [hrepeated]; rfl)
      · cases h

/-! ## The order of keys -/

/-- The keys of a table after a statement that names one of them. A key that is there already keeps
its place, unless the statement is the header of the table under it: then it is put last. -/
def named (keys : List Key) (mention : Mention) : List Key :=
  if mention.own = true ∨ ∀ key ∈ keys, key.text ≠ mention.key.text then
    keys.filter (·.text ≠ mention.key.text) ++ [mention.key]
  else keys

/-- The keys of a table after statements that name them. -/
def keyOrder (mentions : List Mention) : List Key :=
  mentions.foldl named []

/-- One more statement names one more key. -/
lemma keyOrder_concat (mentions : List Mention) (last : Mention) :
    keyOrder (mentions ++ [last]) = named (keyOrder mentions) last := by
  rw [keyOrder, List.foldl_append]
  rfl

/-- Naming a key leaves no key twice. -/
lemma nodup_named {keys : List Key} (h : (keys.map (·.text)).Nodup) (mention : Mention) :
    ((named keys mention).map (·.text)).Nodup := by
  rw [named]
  split
  · rw [List.map_append, List.map_singleton, ← List.concat_eq_append, List.nodup_concat]
    exact ⟨by simp, h.sublist (List.filter_sublist.map _)⟩
  · exact h

/-- No key is there twice. -/
lemma nodup_keyOrder (mentions : List Mention) : ((keyOrder mentions).map (·.text)).Nodup := by
  induction mentions using List.reverseRecOn with
  | nil => exact List.nodup_nil
  | append_singleton front last ih =>
      rw [keyOrder_concat]
      exact nodup_named ih last

/-- **Keys stand in the order of the statements** that name them. -/
lemma keyOrder_sublist (mentions : List Mention) :
    (keyOrder mentions).Sublist (mentions.map (·.key)) := by
  induction mentions using List.reverseRecOn with
  | nil => exact List.Sublist.refl _
  | append_singleton front last ih =>
      rw [keyOrder_concat, named, List.map_append]
      split
      · exact (List.filter_sublist.trans ih).append (List.Sublist.refl _)
      · exact ih.trans (List.sublist_append_left _ _)

/-- Every key that is named is there. -/
lemma exists_mem_keyOrder {mentions : List Mention} :
    ∀ mention ∈ mentions, ∃ key ∈ keyOrder mentions, key.text = mention.key.text := by
  induction mentions using List.reverseRecOn with
  | nil => exact nofun
  | append_singleton front last ih =>
      intro mention hmention
      rw [keyOrder_concat, named]
      by_cases hsame : last.key.text = mention.key.text
      · split
        · exact ⟨last.key, by simp, hsame⟩
        · next hkept =>
          push Not at hkept
          obtain ⟨key, hkey, htext⟩ := hkept.2
          exact ⟨key, hkey, htext.trans hsame⟩
      · have hfront : mention ∈ front := by
          rcases List.mem_append.mp hmention with hmem | hmem
          · exact hmem
          · rw [List.mem_singleton.mp hmem] at hsame
            exact absurd rfl hsame
        obtain ⟨key, hkey, htext⟩ := ih mention hfront
        split
        · refine ⟨key, List.mem_append_left _ (List.mem_filter.mpr ⟨hkey, ?_⟩), htext⟩
          simpa using fun heq => hsame (heq.symm.trans htext)
        · exact ⟨key, hkey, htext⟩

/-- If no entry is found under a key, the key is named for the first time. -/
lemma named_of_absent {entries : Entries} {key : Key} (h : entries.find? key = none) (own : Bool) :
    named (entries.map (·.key)) ⟨key, own⟩ = entries.map (·.key) ++ [key] := by
  have hfresh : ∀ other ∈ entries.map (·.key), other.text ≠ key.text := by
    simpa using Entries.find?_eq_none_iff.mp h
  rw [named, if_pos (.inr hfresh), List.filter_eq_self.mpr (by simpa using hfresh)]

/-- **A table** is put where its key is named. -/
lemma Opens.map_key {own : Bool} {key : Key} {entries after : Entries}
    (h : Opens own key entries after) :
    after.map (·.key) = named (entries.map (·.key)) ⟨key, own⟩ := by
  cases h with
  | added entry hkey _ habsent =>
      rw [named_of_absent habsent, List.map_append, List.map_singleton, hkey]
  | changed change hkey _ hpresent hown =>
      obtain ⟨entry, hentry, htext⟩ := Entries.isSome_find?_iff.mp hpresent
      have hthere : ¬(own = true ∨ ∀ other ∈ entries.map (·.key), other.text ≠ key.text) := by
        rintro (htrue | hfresh)
        · rw [hown] at htrue
          cases htrue
        · exact hfresh entry.key (List.mem_map_of_mem hentry) htext
      rw [named, if_neg hthere, List.map_map]
      refine List.map_congr_left fun entry _ => ?_
      dsimp only [Function.comp_apply]
      split
      · exact hkey entry
      · rfl
  | moved entry hkey _ hown =>
      rw [named, if_pos (.inl hown), List.map_append, List.map_singleton, hkey, List.filter_map]
      rfl

/-- An assignment names a key of its table. -/
lemma map_key_assign {entries after : Entries} {assignment : Assignment}
    (h : assign entries assignment = some after) :
    after.map (·.key) = named (entries.map (·.key)) assignment.mention := by
  by_cases hpath : assignment.path = []
  · obtain ⟨habsent, rfl⟩ := (assign_eq_some_iff hpath).mp h
    rw [Assignment.mention, hpath, List.head?_nil, Option.getD_none, named_of_absent habsent,
      List.map_append, List.map_singleton]
  · exact (opens_assign hpath h).map_key

/-- If every step of a run names a key, the run names these keys in order. -/
lemma map_key_foldlM {α : Type} {step : Entries → α → Option Entries} {mention : α → Mention}
    {steps : List α} {entries after : Entries} (h : steps.foldlM step entries = some after)
    (hstep : ∀ {entries x after}, step entries x = some after →
      after.map (·.key) = named (entries.map (·.key)) (mention x)) :
    after.map (·.key) = (steps.map mention).foldl named (entries.map (·.key)) := by
  induction steps generalizing entries with
  | nil =>
      cases h
      rfl
  | cons first rest ih =>
      rw [List.foldlM_cons] at h
      obtain ⟨between, hfirst, hrest⟩ := Option.bind_eq_some_iff.mp h
      rw [ih hrest, hstep hfirst]
      rfl

/-- The statements of a document, if it can be divided into statements. -/
def documentStatements? (document : List Char) : Option (List Statement) :=
  statements? (document.length + 1) (skipByteOrderMark document)

/-- The keys of the root that the statements of a document name, in order. -/
def mentions (statements : List Statement) : List Mention :=
  (sections statements).1.map Assignment.mention ++ (sections statements).2.map Section.mention

/-- A document is read statement by statement, those below headers last. -/
lemma document?_eq_some_iff {document : List Char} {entries : Entries} :
    document? document = some entries ↔
      ∃ statements root, documentStatements? document = some statements ∧
        assignAll [] (sections statements).1 = some root ∧
          (sections statements).2.foldlM place root = some entries := by
  simp only [document?, documentStatements?, Option.bind_eq_bind, Option.bind_eq_some_iff]
  constructor
  · rintro ⟨statements, hstatements, root, hroot, hentries⟩
    exact ⟨statements, root, hstatements, hroot, hentries⟩
  · rintro ⟨statements, root, hstatements, hroot, hentries⟩
    exact ⟨statements, hstatements, root, hroot, hentries⟩

/-- The entries of a root that statements make. -/
structure OfStatements (statements : List Statement) (entries : Entries) : Prop where
  /-- The keys are in the order in which they are named. -/
  map_key : entries.map (·.key) = keyOrder (mentions statements)
  /-- Each of them stands where one of the statements names it. -/
  sublist : (entries.map (·.key)).Sublist ((mentions statements).map (·.key))
  /-- None is there twice. -/
  nodup : (entries.map (·.key.text)).Nodup
  /-- None that is named is missing. -/
  complete : ∀ mention ∈ mentions statements, ∃ entry ∈ entries, entry.key.text = mention.key.text

/-- **The root of a document** has the keys that its statements name. -/
lemma ofStatements_document {document : List Char} {entries : Entries}
    (h : document? document = some entries) :
    ∃ statements, documentStatements? document = some statements ∧
      OfStatements statements entries := by
  obtain ⟨statements, root, hstatements, hroot, hentries⟩ := document?_eq_some_iff.mp h
  have hkeys : entries.map (·.key) = keyOrder (mentions statements) := by
    rw [map_key_foldlM hentries fun hplace => (opens_place hplace).map_key,
      map_key_foldlM hroot map_key_assign, mentions, keyOrder, List.foldl_append]
    rfl
  have htexts : entries.map (·.key.text) = (keyOrder (mentions statements)).map (·.text) := by
    rw [← hkeys, List.map_map]
    rfl
  refine ⟨statements, hstatements, hkeys, ?_, ?_, ?_⟩
  · rw [hkeys]
    exact keyOrder_sublist _
  · rw [htexts]
    exact nodup_keyOrder _
  · intro mention hmention
    obtain ⟨key, hkey, htext⟩ := exists_mem_keyOrder mention hmention
    rw [← hkeys] at hkey
    obtain ⟨entry, hentry, rfl⟩ := List.mem_map.mp hkey
    exact ⟨entry, hentry, htext⟩

/-! ## Values and tables -/

/-- Where a statement opens a table, there is one. -/
lemma Opens.exists_isTable {own : Bool} {key : Key} {entries after : Entries}
    (h : Opens own key entries after) : ∃ entry ∈ after, entry.item.isTable = true := by
  cases h with
  | added entry _ htable _ => exact ⟨entry, by simp, htable⟩
  | changed change _ htable hpresent _ =>
      obtain ⟨entry, hentry, htext⟩ := Entries.isSome_find?_iff.mp hpresent
      refine ⟨change entry, List.mem_map.mpr ⟨entry, hentry, if_pos htext⟩, htable entry⟩
  | moved entry _ htable _ => exact ⟨entry, by simp, htable⟩

/-- A run that may fail ends with its last step. -/
lemma foldlM_concat {σ α : Type} (step : σ → α → Option σ) (start : σ) (front : List α) (last : α) :
    (front ++ [last]).foldlM step start = (front.foldlM step start).bind (step · last) := by
  rw [List.foldlM_append]
  refine congrArg _ (funext fun between => ?_)
  rw [List.foldlM_cons]
  exact Option.bind_fun_some _

/-- **Values alone.** Assignments that set values in an empty table have different keys, and their
values are the entries of the table. -/
lemma assignAll_nil_eq_some_iff {assignments : List Assignment} {after : Entries}
    (h : ∀ assignment ∈ assignments, assignment.path = []) :
    assignAll [] assignments = some after ↔
      (assignments.map (·.entry.key.text)).Nodup ∧ after = assignments.map (·.entry) := by
  induction assignments using List.reverseRecOn generalizing after with
  | nil => simp [assignAll, eq_comm]
  | append_singleton front last ih =>
      have hfront : ∀ assignment ∈ front, assignment.path = [] :=
        fun assignment hmem => h assignment (List.mem_append_left _ hmem)
      have hlast : last.path = [] := h last (by simp)
      have hfresh : Entries.find? (front.map (·.entry)) last.entry.key = none ↔
          last.entry.key.text ∉ front.map (·.entry.key.text) := by
        rw [Entries.find?_eq_none_iff]
        simp
      rw [assignAll, foldlM_concat, Option.bind_eq_some_iff, List.map_append, List.map_append,
        List.map_singleton, List.map_singleton, ← List.concat_eq_append,
        List.nodup_concat]
      constructor
      · rintro ⟨between, hbetween, hassign⟩
        obtain ⟨hnodup, rfl⟩ := (ih hfront).mp hbetween
        obtain ⟨habsent, rfl⟩ := (assign_eq_some_iff hlast).mp hassign
        exact ⟨⟨hfresh.mp habsent, hnodup⟩, rfl⟩
      · rintro ⟨⟨hnotMem, hnodup⟩, rfl⟩
        exact ⟨_, (ih hfront).mpr ⟨hnodup, rfl⟩,
          (assign_eq_some_iff hlast).mpr ⟨hfresh.mpr hnotMem, rfl⟩⟩

/-- If assignments in an empty table leave no table in it, none of them has a dotted key. -/
lemma path_eq_nil_of_assignAll {assignments : List Assignment} {after : Entries}
    (h : assignAll [] assignments = some after)
    (hvalues : ∀ entry ∈ after, entry.item.isTable = false) :
    ∀ assignment ∈ assignments, assignment.path = [] := by
  induction assignments using List.reverseRecOn generalizing after with
  | nil => exact nofun
  | append_singleton front last ih =>
      rw [assignAll, foldlM_concat] at h
      obtain ⟨between, hfront, hlast⟩ := Option.bind_eq_some_iff.mp h
      by_cases hpath : last.path = []
      · obtain ⟨-, rfl⟩ := (assign_eq_some_iff hpath).mp hlast
        have hearlier := ih hfront fun entry hentry => hvalues entry (List.mem_append_left _ hentry)
        intro assignment hmem
        rcases List.mem_append.mp hmem with hmem | hmem
        · exact hearlier assignment hmem
        · rw [List.mem_singleton.mp hmem]
          exact hpath
      · obtain ⟨entry, hentry, htable⟩ := (opens_assign hpath hlast).exists_isTable
        rw [hvalues entry hentry] at htable
        cases htable

/-- If sections leave no table in the root, there are none. -/
lemma eq_nil_of_foldlM_place {parts : List Section} {root after : Entries}
    (h : parts.foldlM place root = some after)
    (hvalues : ∀ entry ∈ after, entry.item.isTable = false) : parts = [] := by
  rcases List.eq_nil_or_concat parts with rfl | ⟨front, last, rfl⟩
  · rfl
  · rw [List.concat_eq_append, foldlM_concat] at h
    obtain ⟨between, -, hlast⟩ := Option.bind_eq_some_iff.mp h
    obtain ⟨entry, hentry, htable⟩ := (opens_place hlast).exists_isTable
    rw [hvalues entry hentry] at htable
    cases htable

/-- Statements without sections are the assignments before the first section. -/
lemma eq_map_assignment_of_sections {statements : List Statement}
    (h : (sections statements).2 = []) :
    statements = (sections statements).1.map Statement.assignment := by
  induction statements with
  | nil => rfl
  | cons first rest ih =>
      cases first with
      | assignment assignment => exact congrArg _ (ih h)
      | header repeated path key stretch => cases h

/-- Assignments alone have no sections. -/
lemma sections_map_assignment (assignments : List Assignment) :
    sections (assignments.map Statement.assignment) = (assignments, []) := by
  induction assignments with
  | nil => rfl
  | cons first rest ih => rw [List.map_cons, sections, ih]

/-- The statement that sets a value. -/
def Statement.ofEntry (entry : Entry Item) : Statement :=
  .assignment ⟨[], entry⟩

/-- Values are set by assignments alone. -/
lemma sections_map_ofEntry (values : Entries) :
    sections (values.map Statement.ofEntry) = (values.map (⟨[], ·⟩), []) := by
  rw [← sections_map_assignment, List.map_map]
  rfl

/-- **Statements that set values** make a document if their keys are different; its root has the
values in their order. -/
lemma document?_eq_some_iff_of_statements {document : List Char} {values entries : Entries}
    (h : documentStatements? document = some (values.map Statement.ofEntry)) :
    document? document = some entries ↔
      (values.map (·.key.text)).Nodup ∧ entries = values := by
  have hassign : ∀ after, assignAll [] (values.map (⟨[], ·⟩)) = some after ↔
      (values.map (·.key.text)).Nodup ∧ after = values := by
    intro after
    have hentries : (values.map (⟨[], ·⟩)).map Assignment.entry = values := by
      rw [List.map_map]
      exact List.map_id values
    rw [assignAll_nil_eq_some_iff, hentries, List.map_map]
    · rfl
    · intro assignment hmem
      obtain ⟨entry, -, rfl⟩ := List.mem_map.mp hmem
      rfl
  rw [document?_eq_some_iff]
  constructor
  · rintro ⟨statements, root, hstatements, hroot, hentries⟩
    obtain rfl := Option.some.inj (h.symm.trans hstatements)
    rw [sections_map_ofEntry] at hroot hentries
    obtain rfl : root = entries := Option.some.inj hentries
    exact (hassign root).mp hroot
  · rintro ⟨hnodup, rfl⟩
    refine ⟨_, entries, h, ?_, ?_⟩
    · rw [sections_map_ofEntry]
      exact (hassign entries).mpr ⟨hnodup, rfl⟩
    · rw [sections_map_ofEntry]
      rfl

/-- **Values of a document.** If nothing in the root is a table, the statements of the document set
just the values of the root, in this order. -/
lemma statements_of_values {document : List Char} {entries : Entries}
    (h : document? document = some entries)
    (hvalues : ∀ entry ∈ entries, entry.item.isTable = false) :
    documentStatements? document = some (entries.map Statement.ofEntry) := by
  obtain ⟨statements, root, hstatements, hroot, hrest⟩ := document?_eq_some_iff.mp h
  have hnone := eq_nil_of_foldlM_place hrest hvalues
  rw [hnone] at hrest
  obtain rfl : root = entries := Option.some.inj hrest
  have hpath := path_eq_nil_of_assignAll hroot hvalues
  obtain ⟨-, hroot⟩ := (assignAll_nil_eq_some_iff hpath).mp hroot
  rw [hstatements, eq_map_assignment_of_sections hnone, hroot, List.map_map]
  refine congrArg some (List.map_congr_left fun assignment hmem => ?_)
  rw [Function.comp_apply, Statement.ofEntry, ← hpath assignment hmem]

end Conformance.Toml
