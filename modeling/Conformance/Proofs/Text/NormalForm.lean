import Conformance.Answer
import Conformance.Proofs.Text.Trimming

/-!
# The normal form in which texts are stored

Sources and answers are stored without the blanks at their ends. Of all texts that differ in such
blanks only, just one is stored.

* **Bare texts** (`Bare`): neither the first nor the last character is blank. What trimming leaves
  is bare (`bare_trim`), and nothing is taken from a bare text (`Bare.trim_eq`).
* **Blanks put around a text** (`trim_between`) are taken again. So a bare text between blanks is
  what trimming leaves (`Bare.trim_between`), and trimming twice is trimming once.
* **Stored answers** (`storedSource_storedAnswer`): the newline that ends a stored answer is such a
  blank, so nothing but the stored source is kept of an answer.
* **Main statement** (`normalForm`): what is stored of any text, and which texts are stored alike.
-/

namespace Conformance.Text

/-! ## Bare texts -/

/-- Neither the first nor the last character of a text is blank, if it has any. -/
structure Bare (text : List Char) : Prop where
  /-- The first character is not blank. -/
  first : ∀ c ∈ text.head?, isBlank c = false
  /-- The last character is not blank. -/
  last : ∀ c ∈ text.getLast?, isBlank c = false

/-- What trimming leaves is bare. -/
lemma bare_trim (text : List Char) : Bare (trim text) := by
  by_cases hne : trim text = []
  · rw [hne]
    exact ⟨nofun, nofun⟩
  · obtain ⟨first, rest, hcons, hfirst⟩ := exists_cons_eq_trim hne
    obtain ⟨front, last, hconcat, hlast⟩ := exists_concat_eq_trim hne
    refine ⟨?_, ?_⟩
    · rw [hcons]
      rintro c ⟨⟩
      exact hfirst
    · rw [hconcat, List.getLast?_concat]
      rintro c ⟨⟩
      exact hlast

/-- A text keeps its beginning if its first character is not blank. -/
lemma Bare.dropWhile_eq {text : List Char} (h : Bare text) : text.dropWhile isBlank = text := by
  cases text with
  | nil => rfl
  | cons c rest => exact List.dropWhile_cons_of_neg (by simp [h.first c rfl])

/-- A text read backwards is bare if it is. -/
lemma Bare.reverse {text : List Char} (h : Bare text) : Bare text.reverse :=
  ⟨by simpa using h.last, by simpa using h.first⟩

/-- **Nothing is taken** from a bare text. -/
lemma Bare.trim_eq {text : List Char} (h : Bare text) : trim text = text := by
  rw [trim, trimEnd, h.dropWhile_eq, h.reverse.dropWhile_eq, List.reverse_reverse]

/-! ## Blanks put around a text -/

/-- Blanks behind a text are taken with those that end it. -/
lemma trimEnd_append {after : List Char} (h : ∀ c ∈ after, isBlank c = true) (text : List Char) :
    trimEnd (text ++ after) = trimEnd text := by
  rw [trimEnd, trimEnd, List.reverse_append, List.dropWhile_append_of_pos]
  simpa using h

/-- **Blanks around a text** are taken with those at its ends. -/
lemma trim_between {before after : List Char} (hbefore : ∀ c ∈ before, isBlank c = true)
    (hafter : ∀ c ∈ after, isBlank c = true) (text : List Char) :
    trim (before ++ (text ++ after)) = trim text := by
  rw [trim, trim, List.dropWhile_append_of_pos hbefore, List.dropWhile_append]
  split
  · next hblank =>
    -- the text is blank, so its two ends meet and the blanks behind it are leading ones
    rw [List.isEmpty_iff] at hblank
    rw [hblank, List.dropWhile_eq_nil_iff.mpr hafter]
  · exact trimEnd_append hafter _

/-- **A bare text between blanks** is what trimming leaves. -/
lemma Bare.trim_between {core before after : List Char} (h : Bare core)
    (hbefore : ∀ c ∈ before, isBlank c = true) (hafter : ∀ c ∈ after, isBlank c = true) :
    trim (before ++ (core ++ after)) = core := by
  rw [Text.trim_between hbefore hafter, h.trim_eq]

/-- Nothing is left of a text exactly if it is blank. -/
lemma trim_eq_nil_iff {text : List Char} : trim text = [] ↔ ∀ c ∈ text, isBlank c = true := by
  constructor
  · intro hnil c hc
    rw [eq_append_trim text, hnil, List.nil_append, List.mem_append] at hc
    exact hc.elim isBlank_of_mem_leadingBlanks isBlank_of_mem_trailingBlanks
  · intro hblank
    rw [trim, List.dropWhile_eq_nil_iff.mpr hblank]
    rfl

end Conformance.Text

namespace Conformance

open Text

/-! ## Stored texts -/

/-- The characters of a stored source. -/
@[simp] lemma toList_storedSource (source : String) :
    (storedSource source).toList = trim source.toList :=
  String.toList_ofList

/-- A stored source stays as it is when it is stored again. -/
lemma storedSource_storedSource (source : String) :
    storedSource (storedSource source) = storedSource source := by
  apply String.toList_injective
  rw [toList_storedSource, toList_storedSource, (bare_trim source.toList).trim_eq]

/-- Nothing is stored exactly of a blank text. -/
lemma storedSource_eq_empty_iff {source : String} :
    storedSource source = "" ↔ ∀ c ∈ source.toList, isBlank c = true := by
  rw [← trim_eq_nil_iff, ← toList_storedSource, String.toList_eq_nil_iff]

/-- Blanks around a source are not stored. -/
lemma storedSource_between {before after : String} (hbefore : ∀ c ∈ before.toList, isBlank c = true)
    (hafter : ∀ c ∈ after.toList, isBlank c = true) (source : String) :
    storedSource (before ++ source ++ after) = storedSource source := by
  apply String.toList_injective
  rw [toList_storedSource, toList_storedSource, String.toList_append, String.toList_append,
    List.append_assoc, trim_between hbefore hafter]

/-- Texts that are stored alike as sources are stored alike as answers. -/
lemma storedAnswer_congr {text other : String} (h : storedSource text = storedSource other) :
    storedAnswer text = storedAnswer other := by
  rw [storedAnswer, storedAnswer, h]

/-- An answer of which nothing is left is stored as nothing. -/
lemma storedAnswer_of_eq_empty {text : String} (h : storedSource text = "") :
    storedAnswer text = "" :=
  if_pos h

/-- An answer of which something is left is stored with a newline behind it. -/
lemma storedAnswer_of_ne_empty {text : String} (h : storedSource text ≠ "") :
    storedAnswer text = storedSource text ++ "\n" :=
  if_neg h

/-- **A stored answer** has the stored source of its text: the newline behind it is taken again. -/
lemma storedSource_storedAnswer (text : String) :
    storedSource (storedAnswer text) = storedSource text := by
  by_cases hempty : storedSource text = ""
  · rw [storedAnswer_of_eq_empty hempty, hempty]
    rfl
  · have hnewline := @storedSource_between "" "\n" nofun (List.forall_mem_singleton.mpr rfl)
      (storedSource text)
    rw [String.empty_append, storedSource_storedSource] at hnewline
    rw [storedAnswer_of_ne_empty hempty, hnewline]

/-- A text is the core of another: it is bare, and the other has it between blanks. -/
structure IsCore (core text : String) : Prop where
  /-- There are only blanks around the core. -/
  between : ∃ before after, text.toList = before ++ (core.toList ++ after) ∧
    (∀ c ∈ before, isBlank c = true) ∧ ∀ c ∈ after, isBlank c = true
  /-- The core is empty, or neither begins nor ends in a blank. -/
  bare : Bare core.toList

/-- What is stored of a source is its core. -/
lemma isCore_storedSource (source : String) : IsCore (storedSource source) source := by
  refine ⟨⟨leadingBlanks source.toList, trailingBlanks source.toList, ?_,
    fun _ => isBlank_of_mem_leadingBlanks, fun _ => isBlank_of_mem_trailingBlanks⟩, ?_⟩
  · rw [toList_storedSource]
    exact eq_append_trim source.toList
  · rw [toList_storedSource]
    exact bare_trim source.toList

/-- A text has no other core than what is stored of it. -/
lemma IsCore.eq_storedSource {core source : String} (h : IsCore core source) :
    core = storedSource source := by
  obtain ⟨⟨before, after, hsource, hbefore, hafter⟩, hbare⟩ := h
  apply String.toList_injective
  rw [toList_storedSource, hsource, hbare.trim_between hbefore hafter]

/-- What is stored of a text, as a source and as an answer. -/
structure NormalForm (text : String) : Prop where
  /-- The stored source is the core of the text. -/
  core : IsCore (storedSource text) text
  /-- The text has no other core. -/
  core_unique : ∀ other, IsCore other text → other = storedSource text
  /-- The stored answer is empty exactly if the text is blank. -/
  answer_eq_empty_iff : storedAnswer text = "" ↔ ∀ c ∈ text.toList, isBlank c = true
  /-- Any other text is stored as an answer with one newline behind the stored source. -/
  answer_eq : ¬ (∀ c ∈ text.toList, isBlank c = true) →
    storedAnswer text = storedSource text ++ "\n"
  /-- A stored source is stored as it is. -/
  source_source : storedSource (storedSource text) = storedSource text
  /-- A stored answer is stored as it is. -/
  answer_answer : storedAnswer (storedAnswer text) = storedAnswer text
  /-- A stored source is stored as an answer like its text. -/
  answer_source : storedAnswer (storedSource text) = storedAnswer text
  /-- Blanks around the text change neither. -/
  padding : ∀ before after : String, (∀ c ∈ before.toList, isBlank c = true) →
    (∀ c ∈ after.toList, isBlank c = true) →
      storedSource (before ++ text ++ after) = storedSource text ∧
        storedAnswer (before ++ text ++ after) = storedAnswer text
  /-- Texts are stored alike as answers exactly if they are stored alike as sources. -/
  answer_eq_iff : ∀ other,
    storedAnswer text = storedAnswer other ↔ storedSource text = storedSource other

/-- **The normal form of a text.** As a source, a text is stored as its only core; as an answer,
with one newline behind the core unless that is empty. Both are kept when they are stored again and
do not depend on blanks around the text, and the one tells as much as the other. -/
theorem normalForm (text : String) : NormalForm text where
  core := isCore_storedSource text
  core_unique _ h := h.eq_storedSource
  answer_eq_empty_iff := by
    rw [← storedSource_eq_empty_iff]
    constructor
    · intro hanswer
      rw [← storedSource_storedAnswer, hanswer]
      rfl
    · exact storedAnswer_of_eq_empty
  answer_eq hblank := storedAnswer_of_ne_empty fun hempty =>
    hblank (storedSource_eq_empty_iff.mp hempty)
  source_source := storedSource_storedSource text
  answer_answer := storedAnswer_congr (storedSource_storedAnswer text)
  answer_source := storedAnswer_congr (storedSource_storedSource text)
  padding before after hbefore hafter :=
    have hsource := storedSource_between hbefore hafter text
    ⟨hsource, storedAnswer_congr hsource⟩
  answer_eq_iff other := by
    refine ⟨fun hanswer => ?_, storedAnswer_congr⟩
    rw [← storedSource_storedAnswer text, hanswer, storedSource_storedAnswer]

end Conformance
