import Conformance.Outline.Dump
import Conformance.Text.Lines
import Mathlib.Tactic.Lemma

/-!
# The lines of a dump

What the single lines of a printed outline look like, so far as a reader can rely on it whatever
the names are.

* **The last character** tells the lines of markers from all others: a marker ends in a dash, a
  signature in a keyword and a binding in a digit (`Signature.getLast?_display_ne_dash`,
  `Binding.getLast?_display_ne_dash`).
* **The function scopes as one scope** (`Scope.program`): the scopes of an outline are printed like
  the nested scopes of one scope that has nothing else (`dumpItems_program`), so that one induction
  over scopes serves for whole outlines.
* **The lines of the text** (`lines_dump`): when no name holds a newline (`NamesOneLine`), the text
  falls apart at its newlines into the lines it was put together from.
-/

namespace Conformance

/-! ## Numerals and keywords -/

/-- A natural number is written in digits only. -/
lemma isDigit_of_mem_repr {number : Nat} {c : Char} (h : c ∈ number.repr.toList) :
    c.isDigit = true := by
  rw [Nat.toList_repr] at h
  exact Nat.isDigit_of_mem_toDigits (by decide) (by decide) h

/-- A numeral is made of digits and perhaps a minus. -/
lemma eq_dash_or_isDigit_of_mem_repr {value : Int} {c : Char} (h : c ∈ value.repr.toList) :
    c = '-' ∨ c.isDigit = true := by
  rw [Int.repr_eq_if] at h
  split at h
  · exact .inr (isDigit_of_mem_repr h)
  · rw [String.toList_append, List.mem_append] at h
    rcases h with h | h
    · exact .inl (by simpa using h)
    · exact .inr (isDigit_of_mem_repr h)

/-- A numeral ends in a digit. -/
lemma getLast?_repr (value : Int) :
    ∃ c, c.isDigit = true ∧ value.repr.toList.getLast? = some c := by
  have natural : ∀ n : Nat, ∃ c, c.isDigit = true ∧ n.repr.toList.getLast? = some c := by
    intro n
    rw [Nat.toList_repr]
    refine ⟨_, ?_, List.getLast?_eq_some_getLast Nat.toDigits_ne_nil⟩
    exact Nat.isDigit_of_mem_toDigits (by decide) (by decide) (List.getLast_mem _)
  rw [Int.repr_eq_if]
  split
  · exact natural _
  · obtain ⟨c, hc, hlast⟩ := natural (-value).toNat
    exact ⟨c, hc, by rw [String.toList_append, List.getLast?_append, hlast]; rfl⟩

/-- A keyword is made of small letters. -/
lemma ValueType.isLower_of_mem_keyword (type : ValueType) :
    ∀ c ∈ type.keyword.toList, c.isLower = true := by
  have hall : type.keyword.toList.all Char.isLower = true := by
    cases type <;> decide
  exact List.all_eq_true.mp hall

/-- Joining one keyword more puts a comma after it. -/
lemma ValueType.joinKeywords_cons_cons (first second : ValueType) (types : List ValueType) :
    joinKeywords (first :: second :: types) =
      first.keyword ++ "," ++ joinKeywords (second :: types) := by
  unfold joinKeywords
  rw [List.map_cons, List.map_cons, String.intercalate_cons_cons]

/-- The keywords in a signature are made of small letters, and commas stand between them. -/
lemma ValueType.isLower_or_eq_comma_of_mem_joinKeywords (types : List ValueType) :
    ∀ c ∈ (joinKeywords types).toList, c.isLower = true ∨ c = ',' := by
  intro c hc
  induction types with
  | nil => simp [joinKeywords] at hc
  | cons first types ih =>
      cases types with
      | nil => exact .inl (isLower_of_mem_keyword first c (by simpa [joinKeywords] using hc))
      | cons second types =>
          rw [joinKeywords_cons_cons, String.toList_append, String.toList_append] at hc
          rcases List.mem_append.mp hc with hc | hc
          · rcases List.mem_append.mp hc with hc | hc
            · exact .inl (isLower_of_mem_keyword first c hc)
            · exact .inr (by simpa using hc)
          · exact ih hc

/-! ## Displays -/

/-- The characters of a binding's line. -/
lemma Binding.toList_display (binding : Binding) :
    binding.display.toList =
      binding.name.toList ++ ' ' :: binding.type.keyword.toList ++
        ' ' :: binding.slot.toInt.repr.toList := by
  simp [display]

/-- The characters of a signature's line. -/
lemma Signature.toList_display (signature : Signature) :
    signature.display.toList =
      signature.name.toList ++ ' ' :: '(' :: ((ValueType.joinKeywords signature.params).toList ++
        [')']) ++ ' ' :: ['-', '>'] ++ ' ' :: signature.result.keyword.toList := by
  simp [display]

/-- A binding's line is not empty. -/
lemma Binding.display_ne_empty (binding : Binding) : binding.display ≠ "" := by
  intro hempty
  have hcharacters := congrArg String.toList hempty
  simp [toList_display] at hcharacters

/-- A signature's line is not empty. -/
lemma Signature.display_ne_empty (signature : Signature) : signature.display ≠ "" := by
  intro hempty
  have hcharacters := congrArg String.toList hempty
  simp [toList_display] at hcharacters

/-- A binding's line ends in a digit, so not in a dash. -/
lemma Binding.getLast?_display_ne_dash (binding : Binding) :
    binding.display.toList.getLast? ≠ some '-' := by
  obtain ⟨c, hc, hlast⟩ := getLast?_repr binding.slot.toInt
  have hdisplay : binding.display.toList.getLast? = some c := by
    simp [toList_display, List.getLast?_append, List.getLast?_cons, hlast]
  rw [hdisplay]
  rintro ⟨⟩
  exact absurd hc (by decide)

/-- A signature's line ends in a keyword, so not in a dash. -/
lemma Signature.getLast?_display_ne_dash (signature : Signature) :
    signature.display.toList.getLast? ≠ some '-' := by
  have hkeyword : ∀ type : ValueType, ∃ c, c ≠ '-' ∧ type.keyword.toList.getLast? = some c := by
    intro type
    cases type <;> exact ⟨_, by decide, rfl⟩
  obtain ⟨c, hc, hlast⟩ := hkeyword signature.result
  have hdisplay : signature.display.toList.getLast? = some c := by
    simp [toList_display, List.getLast?_append, List.getLast?_cons, hlast]
  rw [hdisplay]
  rintro ⟨⟩
  exact hc rfl

/-- A binding's line holds a newline only if the name does. -/
lemma Binding.newline_notMem_display {binding : Binding} (h : '\n' ∉ binding.name.toList) :
    '\n' ∉ binding.display.toList := by
  have htype : '\n' ∉ binding.type.keyword.toList := fun hmem =>
    absurd (ValueType.isLower_of_mem_keyword _ _ hmem) (by decide)
  have hslot : '\n' ∉ binding.slot.toInt.repr.toList := fun hmem =>
    absurd (eq_dash_or_isDigit_of_mem_repr hmem) (by decide)
  simp [toList_display, h, htype, hslot]

/-- A signature's line holds a newline only if the name does. -/
lemma Signature.newline_notMem_display {signature : Signature}
    (h : '\n' ∉ signature.name.toList) : '\n' ∉ signature.display.toList := by
  have hparams : '\n' ∉ (ValueType.joinKeywords signature.params).toList := fun hmem =>
    absurd (ValueType.isLower_or_eq_comma_of_mem_joinKeywords _ _ hmem) (by decide)
  have hresult : '\n' ∉ signature.result.keyword.toList := fun hmem =>
    absurd (ValueType.isLower_of_mem_keyword _ _ hmem) (by decide)
  simp [toList_display, h, hparams, hresult]

/-! ## Indentation -/

/-- The characters of an indented text. -/
@[simp] lemma toList_indented (depth : Nat) (text : String) :
    (indented depth text).toList = List.replicate (2 * depth) ' ' ++ text.toList := by
  simp [indented]

/-- A text that is not empty ends as it does without indentation. -/
lemma getLast?_toList_indented {depth : Nat} {text : String} (h : text ≠ "") :
    (indented depth text).toList.getLast? = text.toList.getLast? := by
  obtain ⟨c, hlast⟩ : ∃ c, text.toList.getLast? = some c :=
    ⟨_, List.getLast?_eq_some_getLast (by simpa using h)⟩
  rw [toList_indented, List.getLast?_append, hlast, Option.some_or]

/-- Texts that end in different characters differ also behind indentation. -/
lemma toList_indented_ne {first second : String} (hfirst : first ≠ "") (hsecond : second ≠ "")
    (h : first.toList.getLast? ≠ second.toList.getLast?) (firstDepth secondDepth : Nat) :
    (indented firstDepth first).toList ≠ (indented secondDepth second).toList := by
  intro heq
  have hlast := congrArg List.getLast? heq
  rw [getLast?_toList_indented hfirst, getLast?_toList_indented hsecond] at hlast
  exact h hlast

/-- A text that begins with no space is found behind its indentation. -/
lemma dropWhile_toList_indented {text : String} (h : text.toList.head? ≠ some ' ') (depth : Nat) :
    (indented depth text).toList.dropWhile (· = ' ') = text.toList := by
  rw [toList_indented, List.dropWhile_append_of_pos]
  · cases htext : text.toList with
    | nil => rfl
    | cons c rest =>
        have hc : c ≠ ' ' := by
          rintro rfl
          exact h (by rw [htext]; rfl)
        rw [List.dropWhile_cons_of_neg (by simpa using hc)]
  · intro c hc
    simpa using List.eq_of_mem_replicate hc

/-! ## The function scopes as one scope -/

namespace Scope

/-- The scope that has nothing but the given scopes, nested in it in order. -/
def program (functions : List Scope) : Scope :=
  functions.foldr nested empty

/-- The bindings of a program are those of its functions, one function after the other. -/
@[simp] lemma bindings_program (functions : List Scope) :
    (program functions).bindings = functions.flatMap bindings := by
  induction functions with
  | nil => rfl
  | cons first functions ih => simpa [program, bindings] using ih

/-- The items of a program are printed as the scopes of its functions are. -/
lemma dumpItems_program (functions : List Scope) :
    (program functions).dumpItems 0 = functions.flatMap (dumpLines 1) := by
  induction functions with
  | nil => rfl
  | cons first functions ih =>
      have hcons : program (first :: functions) = nested first (program functions) := rfl
      rw [hcons, dumpItems, ih, List.flatMap_cons, dumpLines]
      simp

/-- What holds of the markers and of the displays of a scope's bindings at every level holds of all
lines of its items. -/
lemma forall_mem_dumpItems {P : String → Prop} {scope : Scope} (depth : Nat)
    (hopen : ∀ level, P (indented level scopeOpen))
    (hclose : ∀ level, P (indented level scopeClose))
    (hbinding : ∀ binding ∈ scope.bindings, ∀ level, P (indented level binding.display)) :
    ∀ line ∈ scope.dumpItems depth, P line := by
  induction scope generalizing depth with
  | empty => simp [dumpItems]
  | binding first rest ih =>
      intro line hline
      rcases List.mem_cons.mp hline with rfl | hline
      · exact hbinding first List.mem_cons_self depth
      · exact ih depth (fun b hb => hbinding b (List.mem_cons_of_mem _ hb)) line hline
  | nested inner rest ihInner ihRest =>
      intro line hline
      simp only [dumpItems, List.mem_cons, List.mem_append] at hline
      rcases hline with rfl | hline | rfl | hline
      · exact hopen _
      · exact ihInner _ (fun b hb => hbinding b (List.mem_append_left _ hb)) line hline
      · exact hclose _
      · exact ihRest _ (fun b hb => hbinding b (List.mem_append_right _ hb)) line hline

end Scope

/-! ## The lines of the text -/

namespace Outline

/-- No name of a function or of a binding holds a newline. -/
def NamesOneLine (outline : Outline) : Prop :=
  (∀ signature ∈ outline.signatures, '\n' ∉ signature.name.toList) ∧
    ∀ scope ∈ outline.scopes, ∀ binding ∈ scope.bindings, '\n' ∉ binding.name.toList

/-- Whether the names of an outline hold no newline is decided by looking at all of them. -/
instance instDecidableNamesOneLine (outline : Outline) : Decidable outline.NamesOneLine :=
  inferInstanceAs (Decidable (_ ∧ _))

/-- The lines of an outline with the scopes of its functions as one scope. -/
lemma dumpLines_eq (outline : Outline) :
    outline.dumpLines =
      globalOpen :: ((librarySignatures ++ outline.signatures).map Signature.display ++
        ((Scope.program outline.scopes).dumpItems 0 ++ [globalClose])) := by
  rw [Scope.dumpItems_program, dumpLines]

/-- Where no name holds a newline, no line of the dump does. -/
lemma newline_notMem_of_mem_dumpLines {outline : Outline} (h : outline.NamesOneLine)
    {line : String} (hline : line ∈ outline.dumpLines) : '\n' ∉ line.toList := by
  rw [dumpLines_eq] at hline
  simp only [List.mem_cons, List.mem_append, List.mem_map, List.not_mem_nil, or_false] at hline
  rcases hline with rfl | ⟨signature, hmem, rfl⟩ | hline | rfl
  · decide
  · apply Signature.newline_notMem_display
    rcases hmem with hmem | hmem
    · revert signature
      decide
    · exact h.1 signature hmem
  · refine Scope.forall_mem_dumpItems (P := fun line => '\n' ∉ line.toList) 0 ?_ ?_ ?_ line hline
    · intro level
      simp [scopeOpen]
    · intro level
      simp [scopeClose]
    · intro binding hmem level
      rw [Scope.bindings_program, List.mem_flatMap] at hmem
      obtain ⟨scope, hscope, hmem⟩ := hmem
      simpa using Binding.newline_notMem_display (h.2 scope hscope binding hmem)
  · decide

/-- **The lines of the text.** Where no name holds a newline, the dump falls apart at its newlines
into the lines that it was put together from. -/
lemma lines_dump {outline : Outline} (h : outline.NamesOneLine) :
    Text.lines outline.dump.toList = outline.dumpLines.map String.toList := by
  have hlines : outline.dump.toList = ['\n'].intercalate (outline.dumpLines.map String.toList) := by
    rw [dump, String.toList_intercalate]
    rfl
  rw [hlines, Text.lines, List.splitOn_intercalate]
  · intro line hline
    obtain ⟨text, htext, rfl⟩ := List.mem_map.mp hline
    exact newline_notMem_of_mem_dumpLines h htext
  · simp [dumpLines]

/-- The lines of a text between its newlines. -/
def textLines (text : String) : List String :=
  (Text.lines text.toList).map String.ofList

/-- Where no name holds a newline, the lines of the dump are those it was put together from. -/
lemma textLines_dump {outline : Outline} (h : outline.NamesOneLine) :
    textLines outline.dump = outline.dumpLines := by
  unfold textLines
  rw [lines_dump h, List.map_map]
  simp

/-- An outline whose names look like markers, signatures and bindings. -/
def lookalikes : Outline where
  signatures :=
    [⟨"  ---begin scope---", [], .void⟩, ⟨"---end global scope---", [.int, .bool], .int⟩,
      ⟨"", [.byte], .string⟩, ⟨"f (int) -> void", [], .byte⟩]
  scopes :=
    [.binding ⟨"  ---end scope---", .int, -1⟩
        (.nested (.binding ⟨"", .bool, 0⟩ .empty) (.binding ⟨"x int 0", .string, 1⟩ .empty)),
      .empty]

end Outline

end Conformance
