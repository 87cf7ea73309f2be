import Conformance.Proofs.CommandLine.Performing
import Conformance.Proofs.Toml.Written

/-!
# Reading settings

Which texts of a settings file are accepted, what they set, and what is said of the others.

* **One entry** (`IsSetting`, `Offends`): an entry of the root sets one of the settings to a string,
  or it offends, in one way. The first that offends ends the reading (`visit_eq_error_iff`); if none
  does, each setting has the string of its key, or its default (`Holds`, `visit_ok`).
* **Documents** (`Verdict`): the same for the text of a file, with the order of the entries. Nothing
  but plain assignments of strings is accepted, and a text that is no document never is.
* **Layouts** (`ofText_eq_ok_iff_of_written`, `ofText_join_settingLine`): a document of strings sets
  them in every layout, and any settings can be written so that they are read again.
* **Main statement** (`readSettings`): all this for every text and every path, whatever the words
  are for a text that is no document (`Toml.Wording`).
-/

namespace Conformance

open Toml

namespace Settings

/-- The text of a setting. -/
def get (settings : Settings) : Field → String
  | .outputDir => settings.outputDir.text
  | .logLevel => settings.logLevel

/-- Settings are known by their texts. -/
lemma eq_of_get {settings other : Settings} (h : ∀ field, settings.get field = other.get field) :
    settings = other := by
  obtain ⟨⟨dir⟩, level⟩ := settings
  obtain ⟨⟨otherDir⟩, otherLevel⟩ := other
  obtain rfl : dir = otherDir := h .outputDir
  obtain rfl : level = otherLevel := h .logLevel
  rfl

/-- Changing a setting gives it the value, and leaves the other one alone. -/
@[simp] lemma get_set (settings : Settings) (field other : Field) (value : String) :
    (settings.set field value).get other = if other = field then value else settings.get other := by
  cases field <;> cases other <;> rfl

/-- The settings in the text of the file at a path. -/
def ofText [Toml.Wording] (content : String) (path : Path) : Except Error Settings :=
  (parse content).mapError (.settings · path)

/-- Loading a file gives the settings in its text. -/
lemma run_load_of_readText [Toml.Wording] {disk : Disk} {path : Path} {content : String}
    (h : disk.readText path = .ok content) :
    (load path : StateM Disk _).run disk = (ofText content path, disk) := by
  rw [run_load, Disk.settingsIn, h]
  rfl

/-! ## One entry -/

/-- The setting of a key is the one that has the key. -/
lemma Field.ofKey?_eq_some_iff {key : String} {field : Field} :
    Field.ofKey? key = some field ↔ key = field.key := by
  constructor
  · intro h
    rw [Field.ofKey?.eq_def] at h
    split at h <;> cases h <;> rfl
  · rintro rfl
    cases field <;> rfl

/-- Settings have different keys. -/
lemma Field.key_injective : Function.Injective Field.key := by
  intro field other h
  rw [← Field.ofKey?_eq_some_iff, Field.ofKey?_eq_some_iff.mpr rfl] at h
  exact Option.some.inj h

/-- An entry sets one of the settings to a string. -/
def IsSetting (entry : Toml.Entry Item) : Prop :=
  ∃ (field : Field) (text : String), entry.key.text = field.key ∧ entry.item = .string text

/-- What is said of an entry that cannot be used. -/
inductive Offends (document : List Char) (entry : Toml.Entry Item) : Fault → Prop where
  /-- Its key is that of no setting; the key is shown. -/
  | unknownKey (h : ∀ field : Field, entry.key.text ≠ field.key) :
      Offends document entry (.unknownKey (entry.key.stretch.place document) entry.key.text)
  /-- It gives a setting something else than a string; the item is shown. -/
  | wrongType (field : Field) (hkey : entry.key.text = field.key)
      (hitem : ∀ text, entry.item ≠ .string text) :
      Offends document entry
        (.wrongType (entry.stretch.place document) (foundText entry.item) field)

section visit

variable {document : List Char} {entry : Toml.Entry Item} {entries rest : Entries}
  {before : Settings}

/-- An entry that offends sets nothing. -/
lemma Offends.not_isSetting {fault : Fault} (h : Offends document entry fault) :
    ¬IsSetting entry := by
  rintro ⟨field, text, hkey, hitem⟩
  cases h with
  | unknownKey hunknown => exact hunknown field hkey
  | wrongType _ _ hother => exact hother text hitem

/-- An entry that sets one of the settings is taken in. -/
lemma visit_of_isSetting {field : Field} {text : String} (hkey : entry.key.text = field.key)
    (hitem : entry.item = .string text) :
    visit document (entry :: rest) before = visit document rest (before.set field text) := by
  simp only [visit, Field.ofKey?_eq_some_iff.mpr hkey, hitem]

/-- **An entry that offends** ends the reading. -/
lemma visit_of_offends {fault : Fault} (h : Offends document entry fault) :
    visit document (entry :: rest) before = .error fault := by
  cases h with
  | unknownKey hunknown =>
      have hnone : Field.ofKey? entry.key.text = none := by
        rw [Option.eq_none_iff_forall_ne_some]
        exact fun field hfield => hunknown field (Field.ofKey?_eq_some_iff.mp hfield)
      rw [visit, hnone]
  | wrongType field hkey hother =>
      simp only [visit, Field.ofKey?_eq_some_iff.mpr hkey]

/-- An entry sets one of the settings, or offends. -/
lemma isSetting_or_offends (document : List Char) (entry : Toml.Entry Item) :
    IsSetting entry ∨ ∃ fault, Offends document entry fault := by
  by_cases hkey : ∃ field : Field, entry.key.text = field.key
  · obtain ⟨field, hkey⟩ := hkey
    by_cases hitem : ∃ text, entry.item = .string text
    · obtain ⟨text, hitem⟩ := hitem
      exact .inl ⟨field, text, hkey, hitem⟩
    · exact .inr ⟨_, .wrongType field hkey fun text heq => hitem ⟨text, heq⟩⟩
  · exact .inr ⟨_, .unknownKey fun field heq => hkey ⟨field, heq⟩⟩

/-! ## All entries -/

/-- **The first entry that offends** is reported, and nothing else. -/
lemma visit_eq_error_iff {fault : Fault} :
    visit document entries before = .error fault ↔
      ∃ front entry rest, entries = front ++ entry :: rest ∧
        (∀ earlier ∈ front, IsSetting earlier) ∧ Offends document entry fault := by
  constructor
  · intro h
    induction entries generalizing before with
    | nil => cases h
    | cons first others ih =>
        rcases isSetting_or_offends document first with hfirst | ⟨found, hfound⟩
        · obtain ⟨field, text, hkey, hitem⟩ := hfirst
          rw [visit_of_isSetting hkey hitem] at h
          obtain ⟨front, entry, rest, rfl, hfront, hentry⟩ := ih h
          refine ⟨first :: front, entry, rest, rfl, ?_, hentry⟩
          exact List.forall_mem_cons.mpr ⟨⟨field, text, hkey, hitem⟩, hfront⟩
        · rw [visit_of_offends hfound] at h
          cases h
          exact ⟨[], first, others, rfl, nofun, hfound⟩
  · rintro ⟨front, entry, rest, rfl, hfront, hentry⟩
    induction front generalizing before with
    | nil => exact visit_of_offends hentry
    | cons first front ih =>
        obtain ⟨⟨field, text, hkey, hitem⟩, hothers⟩ := List.forall_mem_cons.mp hfront
        rw [List.cons_append, visit_of_isSetting hkey hitem]
        exact ih hothers

/-- The strings of entries, under their keys. -/
def strings (entries : Entries) : List (String × String) :=
  entries.filterMap fun entry =>
    match entry.item with
    | .string text => some (entry.key.text, text)
    | _ => none

/-- A string is put before those that follow. -/
lemma strings_cons {text : String} (hitem : entry.item = .string text) :
    strings (entry :: rest) = (entry.key.text, text) :: strings rest := by
  rw [strings, List.filterMap_cons, hitem]
  rfl

/-- Strings have the keys of their entries. -/
lemma mem_keys_of_mem_strings {key : String} (h : key ∈ (strings entries).map Prod.fst) :
    key ∈ entries.map (·.key.text) := by
  obtain ⟨pair, hpair, rfl⟩ := List.mem_map.mp h
  obtain ⟨entry, hentry, hstring⟩ := List.mem_filterMap.mp hpair
  split at hstring
  · cases hstring
    exact List.mem_map_of_mem hentry
  · cases hstring

/-- What settings are after strings have been given to some of them. -/
structure Holds (before : Settings) (given : List (String × String)) (settings : Settings) :
    Prop where
  /-- A setting whose key is given has its string. -/
  get_of_mem : ∀ field text, (Field.key field, text) ∈ given → settings.get field = text
  /-- A setting whose key is not given is what it was. -/
  get_of_not_mem : ∀ field, Field.key field ∉ given.map Prod.fst →
    settings.get field = before.get field

/-- The strings decide what the settings are, and neither their order nor anything else. -/
lemma Holds.eq_of_mem_iff {given others : List (String × String)} {settings other : Settings}
    (h : Holds before given settings) (hother : Holds before others other)
    (hsame : ∀ pair, pair ∈ given ↔ pair ∈ others) : settings = other := by
  refine eq_of_get fun field => ?_
  by_cases hkey : field.key ∈ given.map Prod.fst
  · obtain ⟨⟨key, text⟩, hpair, rfl⟩ := List.mem_map.mp hkey
    rw [h.get_of_mem field text hpair, hother.get_of_mem field text ((hsame _).mp hpair)]
  · have hkeys : field.key ∉ others.map Prod.fst := by
      intro hmem
      obtain ⟨pair, hpair, hfst⟩ := List.mem_map.mp hmem
      exact hkey (List.mem_map.mpr ⟨pair, (hsame pair).mpr hpair, hfst⟩)
    rw [h.get_of_not_mem field hkey, hother.get_of_not_mem field hkeys]

/-- **Accepted entries** all set settings, and these hold just their strings. -/
lemma visit_ok {settings : Settings} (hnodup : (entries.map (·.key.text)).Nodup)
    (h : visit document entries before = .ok settings) :
    (∀ entry ∈ entries, IsSetting entry) ∧ Holds before (strings entries) settings := by
  induction entries generalizing before with
  | nil =>
      cases h
      exact ⟨nofun, nofun, fun _ _ => rfl⟩
  | cons first rest ih =>
      rcases isSetting_or_offends document first with ⟨field, text, hkey, hitem⟩ | ⟨found, hfound⟩
      · rw [visit_of_isSetting hkey hitem] at h
        obtain ⟨hfirst, hrest⟩ := List.nodup_cons.mp hnodup
        obtain ⟨hall, hholds⟩ := ih hrest h
        refine ⟨List.forall_mem_cons.mpr ⟨⟨field, text, hkey, hitem⟩, hall⟩, ?_, ?_⟩
        · intro other value hmem
          rw [strings_cons hitem, List.mem_cons, hkey] at hmem
          rcases hmem with heq | hmem
          · -- no later entry has the key again, so the string stays
            obtain ⟨hfield, rfl⟩ := Prod.mk.inj heq
            obtain rfl := Field.key_injective hfield
            have hlast : other.key ∉ (strings rest).map Prod.fst := by
              rw [← hkey]
              exact fun hagain => hfirst (mem_keys_of_mem_strings hagain)
            rw [hholds.get_of_not_mem other hlast, get_set, if_pos rfl]
          · exact hholds.get_of_mem other value hmem
        · intro other hmem
          rw [strings_cons hitem, List.map_cons, List.mem_cons, hkey, not_or] at hmem
          have hne : other ≠ field := fun heq => hmem.1 (congrArg Field.key heq)
          rw [hholds.get_of_not_mem other hmem.2, get_set, if_neg hne]
      · rw [visit_of_offends hfound] at h
        cases h

end visit

/-! ## Documents -/

/-- What the text of a settings file comes to, if it is a document whose root has these entries. -/
structure Verdict [Toml.Wording] (content : String) (path : Path) (entries : Entries) : Prop where
  /-- The entries stand in the order in which the statements of the document name their keys. A
  table that gets its own header after longer ones stands at that header. -/
  statements : ∃ statements, documentStatements? content.toList = some statements ∧
    OfStatements statements entries
  /-- The text is accepted exactly if every entry sets one of the settings to a string. -/
  accepted : (∃ settings, ofText content path = .ok settings) ↔ ∀ entry ∈ entries, IsSetting entry
  /-- Each setting then has the string of its key, or its default. -/
  holds : ∀ settings, ofText content path = .ok settings → Holds {} (strings entries) settings
  /-- Then the document has no other statements than plain assignments of the entries. -/
  plain : ∀ settings, ofText content path = .ok settings →
    documentStatements? content.toList = some (entries.map Statement.ofEntry)
  /-- The text is rejected exactly if an entry offends. The first one is reported, with the path. -/
  rejected : ∀ error, ofText content path = .error error ↔
    ∃ front entry rest fault, entries = front ++ entry :: rest ∧
      (∀ earlier ∈ front, IsSetting earlier) ∧ Offends content.toList entry fault ∧
        error = .settings fault path

section ofText

variable {content : String} {path : Path} {entries : Entries} {settings : Settings}

/-- A text that is no document is rejected. -/
lemma ofText_of_none [Toml.Wording] (h : document? content.toList = none) :
    ofText content path =
      .error (.settings (.invalidSyntax (Toml.Wording.reason? content)) path) := by
  simp only [ofText, parse, h]
  rfl

/-- The entries of a document are visited in order. -/
lemma ofText_of_some [Toml.Wording] (h : document? content.toList = some entries) :
    ofText content path = (visit content.toList entries {}).mapError (.settings · path) := by
  simp only [ofText, parse, h]

/-- A document is accepted exactly if its entries are. -/
lemma ofText_eq_ok_iff [Toml.Wording] (h : document? content.toList = some entries) :
    ofText content path = .ok settings ↔ visit content.toList entries {} = .ok settings := by
  rw [ofText_of_some h]
  cases visit content.toList entries {} <;> simp [Except.mapError]

/-- A document is rejected exactly if its entries are, with the path. -/
lemma ofText_eq_error_iff [Toml.Wording] (h : document? content.toList = some entries)
    {error : Error} :
    ofText content path = .error error ↔
      ∃ fault, visit content.toList entries {} = .error fault ∧ error = .settings fault path := by
  rw [ofText_of_some h]
  cases visit content.toList entries {} <;> simp [Except.mapError, eq_comm]

/-- Different keys of entries. -/
lemma nodup_of_document (h : document? content.toList = some entries) :
    (entries.map (·.key.text)).Nodup := by
  obtain ⟨_, -, hof⟩ := ofStatements_document h
  exact hof.nodup

/-- A document is accepted exactly if every entry sets one of the settings. -/
lemma exists_ofText_eq_ok_iff [Toml.Wording] (h : document? content.toList = some entries) :
    (∃ settings, ofText content path = .ok settings) ↔ ∀ entry ∈ entries, IsSetting entry := by
  constructor
  · rintro ⟨settings, hok⟩
    exact (visit_ok (nodup_of_document h) ((ofText_eq_ok_iff h).mp hok)).1
  · intro hall
    cases hvisit : visit content.toList entries {} with
    | ok settings => exact ⟨settings, (ofText_eq_ok_iff h).mpr hvisit⟩
    | error fault =>
        obtain ⟨front, entry, rest, rfl, -, hentry⟩ := visit_eq_error_iff.mp hvisit
        exact absurd (hall entry (by simp)) hentry.not_isSetting

/-- Accepted settings hold the strings of the document. -/
lemma holds_of_ofText [Toml.Wording] (h : document? content.toList = some entries)
    (hok : ofText content path = .ok settings) : Holds {} (strings entries) settings :=
  (visit_ok (nodup_of_document h) ((ofText_eq_ok_iff h).mp hok)).2

/-- **Every document** gets its verdict. -/
lemma verdict_of_document [Toml.Wording] (h : document? content.toList = some entries) :
    Verdict content path entries where
  statements := ofStatements_document h
  accepted := exists_ofText_eq_ok_iff h
  holds _ hok := holds_of_ofText h hok
  plain settings hok := by
    refine statements_of_values h fun entry hentry => ?_
    obtain ⟨_, text, -, hitem⟩ := (exists_ofText_eq_ok_iff h).mp ⟨settings, hok⟩ entry hentry
    rw [hitem]
    rfl
  rejected error := by
    rw [ofText_eq_error_iff h]
    constructor
    · rintro ⟨fault, hvisit, rfl⟩
      obtain ⟨front, entry, rest, hentries, hfront, hentry⟩ := visit_eq_error_iff.mp hvisit
      exact ⟨front, entry, rest, fault, hentries, hfront, hentry, rfl⟩
    · rintro ⟨front, entry, rest, fault, hentries, hfront, hentry, rfl⟩
      exact ⟨fault, visit_eq_error_iff.mpr ⟨front, entry, rest, hentries, hfront, hentry⟩, rfl⟩

/-! ## Layouts -/

/-- The strings that a document sets, under their keys. -/
def written (document : WrittenDocument) : List (String × String) :=
  document.settings.map fun setting => (setting.name, String.ofList setting.text)

/-- Entries that set the settings of a document have their strings. -/
lemma strings_of_sets {entries : Entries} {settings : List WrittenSetting}
    (h : List.Forall₂ WrittenDocument.Sets entries settings) :
    strings entries = settings.map fun setting => (setting.name, String.ofList setting.text) := by
  induction h with
  | nil => rfl
  | cons hfirst _ ih => rw [strings_cons hfirst.2, hfirst.1, ih, List.map_cons]

/-- Entries that set the settings of a document all set settings exactly if its keys are theirs. -/
lemma forall_isSetting_iff {entries : Entries} {settings : List WrittenSetting}
    (h : List.Forall₂ WrittenDocument.Sets entries settings) :
    (∀ entry ∈ entries, IsSetting entry) ↔
      ∀ setting ∈ settings, ∃ field : Field, setting.name = field.key := by
  induction h with
  | nil => simp
  | @cons entry setting _ _ hfirst _ ih =>
      have hstring : IsSetting entry ↔ ∃ field : Field, setting.name = field.key := by
        rw [IsSetting, hfirst.1, hfirst.2]
        simp
      rw [List.forall_mem_cons, List.forall_mem_cons, hstring, ih]

/-- **Any layout** of a document sets what is written in it, if it sets nothing else than settings,
and none of them twice; otherwise it is rejected. -/
lemma ofText_eq_ok_iff_of_written [Toml.Wording] {document : WrittenDocument}
    (h : document.chars = content.toList) :
    ofText content path = .ok settings ↔
      (document.settings.map (·.name)).Nodup ∧
        (∀ setting ∈ document.settings, ∃ field : Field, setting.name = field.key) ∧
          Holds {} (written document) settings := by
  obtain ⟨values, hsets, -, hdocument⟩ := document.document?_chars
  rw [h] at hdocument
  rw [written, ← strings_of_sets hsets, ← forall_isSetting_iff hsets]
  constructor
  · intro hok
    cases hentries : document? content.toList with
    | none =>
        rw [ofText_of_none hentries] at hok
        cases hok
    | some entries =>
        obtain ⟨hnodup, rfl⟩ := (hdocument entries).mp hentries
        exact ⟨hnodup, (exists_ofText_eq_ok_iff hentries).mp ⟨settings, hok⟩,
          holds_of_ofText hentries hok⟩
  · rintro ⟨hnodup, hall, hholds⟩
    have hentries := (hdocument values).mpr ⟨hnodup, rfl⟩
    obtain ⟨found, hfound⟩ := (exists_ofText_eq_ok_iff hentries).mpr hall
    rw [hfound, (holds_of_ofText hentries hfound).eq_of_mem_iff hholds fun _ => Iff.rfl]

/-- A line that sets a setting to a text. -/
def settingLine (field : Field) (text : String) : String :=
  field.key ++ " = " ++ String.ofList (canonical text.toList) ++ "\n"

/-- The key of a setting needs no marks. -/
lemma Field.keyForm (field : Field) : KeyForm field.key.toList field.key := by
  have hbare : field.key.toList ≠ [] ∧ field.key.toList.all isBare = true := by
    cases field <;> exact ⟨nofun, rfl⟩
  have hform := KeyForm.bare hbare.1 (List.all_eq_true.mp hbare.2)
  rwa [String.ofList_toList] at hform

/-- A setting in its line. -/
def lineSetting (field : Field) (text : String) : WrittenSetting where
  key := field.key.toList
  name := field.key
  key_form := field.keyForm
  before := .one
  behind := .one
  value := canonical text.toList
  text := text.toList
  literal := literal_canonical text.toList

/-- A document with a line for each of these fields. -/
def linesDocument (settings : Settings) (order : List Field) : WrittenDocument where
  lines := order.map fun field =>
    (⟨.none, some (lineSetting field (settings.get field)), .none⟩, .newline)
  last := ⟨.none, none, .none⟩

/-- The characters of a line. -/
lemma toList_settingLine (field : Field) (text : String) :
    (settingLine field text).toList =
      WrittenLine.chars ⟨.none, some (lineSetting field text), .none⟩ ++ LineEnd.newline.chars := by
  simp [settingLine, WrittenLine.chars, WrittenSetting.chars, WrittenSetting.valueChars,
    lineSetting, LineTail.chars, LineTail.commentChars, LineTail.none, Spaces.none, Spaces.one,
    LineEnd.chars]

/-- The characters of the document are those of the lines. -/
lemma chars_linesDocument (settings : Settings) (order : List Field) :
    (linesDocument settings order).chars =
      (String.join (order.map fun field => settingLine field (settings.get field))).toList := by
  have hlast : WrittenLine.chars ⟨.none, none, .none⟩ = [] := rfl
  rw [String.toList_join, List.flatMap_map, WrittenDocument.chars, linesDocument, List.flatMap_map,
    hlast, List.append_nil]
  exact List.flatMap_congr fun field _ => (toList_settingLine field _).symm

/-- The settings of the document are those of the lines. -/
lemma settings_linesDocument (settings : Settings) (order : List Field) :
    (linesDocument settings order).settings =
      order.map fun field => lineSetting field (settings.get field) := by
  simp [linesDocument, WrittenDocument.settings, List.filterMap_map]

/-- **Any settings** are read again if those that are not the default have lines, in any order. -/
lemma ofText_join_settingLine [Toml.Wording] (settings : Settings) (order : List Field)
    (hnodup : order.Nodup)
    (hothers : ∀ field, field ∉ order → settings.get field = get {} field) (path : Path) :
    ofText (String.join (order.map fun field => settingLine field (settings.get field))) path =
      .ok settings := by
  rw [ofText_eq_ok_iff_of_written (chars_linesDocument settings order), written,
    settings_linesDocument, List.map_map, List.map_map]
  refine ⟨hnodup.map Field.key_injective, ?_, ?_, ?_⟩
  · intro setting hsetting
    obtain ⟨field, -, rfl⟩ := List.mem_map.mp hsetting
    exact ⟨field, rfl⟩
  · intro field text hmem
    obtain ⟨other, -, heq⟩ := List.mem_map.mp hmem
    obtain ⟨hkey, rfl⟩ := Prod.mk.inj heq
    obtain rfl := Field.key_injective hkey
    exact (String.ofList_toList).symm
  · intro field habsent
    refine hothers field fun hfield => habsent ?_
    rw [List.map_map]
    exact List.mem_map.mpr ⟨field, hfield, rfl⟩

/-- Two lines for the two settings are read again. -/
lemma ofText_settingLine_append [Toml.Wording] (settings : Settings) {first second : Field}
    (hne : first ≠ second) (path : Path) :
    ofText
        (settingLine first (settings.get first) ++ settingLine second (settings.get second)) path =
      .ok settings := by
  have hall : ∀ field, field ∈ [first, second] := by
    intro field
    cases field <;> cases first <;> cases second <;> simp at hne ⊢
  have hread := ofText_join_settingLine settings [first, second] (by simp [hne])
    (fun field habsent => absurd (hall field) habsent) path
  simpa [String.join] using hread

end ofText

/-- Reading the text of the settings file at a path. -/
structure Reading [Toml.Wording] (content : String) (path : Path) : Prop where
  /-- It is what loading the file comes to, where the text is read from a disk. -/
  loaded : ∀ disk : Disk, disk.readText path = .ok content →
    (load path : StateM Disk _).run disk = (ofText content path, disk)
  /-- A text that is no document is never accepted; the parser's reason is reported, with the
  path. -/
  noDocument : document? content.toList = none →
    ofText content path =
      .error (.settings (.invalidSyntax (Toml.Wording.reason? content)) path)
  /-- A document is accepted or rejected for its entries. -/
  verdict : ∀ entries, document? content.toList = some entries → Verdict content path entries
  /-- Two accepted documents with the same strings under the same keys set the same, whatever the
  order, the layout and the literals are. -/
  sameStrings : ∀ other otherPath entries others settings otherSettings,
    document? content.toList = some entries → document? other.toList = some others →
      (∀ pair, pair ∈ strings entries ↔ pair ∈ strings others) →
        ofText content path = .ok settings → ofText other otherPath = .ok otherSettings →
          settings = otherSettings
  /-- A document that does nothing but set strings is accepted in every layout, with its strings, if
  it sets nothing else than settings, and none of them twice. -/
  anyLayout : ∀ document : WrittenDocument, document.chars = content.toList → ∀ settings,
    ofText content path = .ok settings ↔
      (document.settings.map (·.name)).Nodup ∧
        (∀ setting ∈ document.settings, ∃ field : Field, setting.name = field.key) ∧
          Holds {} (written document) settings
  /-- Any two strings are read again from the lines that set them, in either order. -/
  roundTrip : ∀ dir level,
    content = settingLine .outputDir dir ++ settingLine .logLevel level ∨
        content = settingLine .logLevel level ++ settingLine .outputDir dir →
      ofText content path = .ok ⟨⟨dir⟩, level⟩

end Settings

/-- **Settings are read** from every text as its document says, and no setting is dropped. -/
theorem readSettings [Toml.Wording] (content : String) (path : Path) :
    Settings.Reading content path where
  loaded _ := Settings.run_load_of_readText
  noDocument := Settings.ofText_of_none
  verdict _ h := Settings.verdict_of_document h
  sameStrings _ _ _ _ _ _ h hother hsame hok hokOther :=
    (Settings.holds_of_ofText h hok).eq_of_mem_iff (Settings.holds_of_ofText hother hokOther) hsame
  anyLayout _ h _ := Settings.ofText_eq_ok_iff_of_written h
  roundTrip dir level horder := by
    rcases horder with rfl | rfl
    · exact Settings.ofText_settingLine_append ⟨⟨dir⟩, level⟩ (by decide) path
    · exact Settings.ofText_settingLine_append ⟨⟨dir⟩, level⟩ (by decide) path

/-- A literal string, with spaces and comments around it. -/
example :
    Settings.ofText "# words\n\nlog_level='a\\b' # more\n" ⟨"c"⟩ = .ok { logLevel := "a\\b" } := by
  rfl

end Conformance
