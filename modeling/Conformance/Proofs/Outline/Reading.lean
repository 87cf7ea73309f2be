import Conformance.Proofs.Outline.Lines
import Std.Data.String.ToInt

/-!
# Reading a dump back

A reader for printed outlines, and the proof that it returns the outline that was printed. Printing
quotes nothing, so the reader works from the ends of the lines, which names do not reach.

* **Displays** (`Binding.ofDisplay?`, `Signature.ofDisplay?`): a line is cut at its spaces; the last
  words are the keywords and numerals, and all words before them are the name.
* **Scopes** (`Scope.readLine?`): the lines are read from the last to the first, with a stack of the
  scopes that are open at a line, the innermost on top. The height of the stack is the depth of the
  line, so the spaces of the indentation are told from those that begin a name.
* **Outlines** (`Outline.ofDump?`): the signatures are the lines before the first line that opens a
  scope.
* **Main statement** (`ofDump?_dump`): reading a dump gives the outline back whenever no name holds
  a newline; so equal dumps are dumps of equal outlines.
-/

namespace Conformance

/-! ## Words -/

/-- The words of a line between its spaces, the last one first. -/
def wordsFromEnd (line : List Char) : List (List Char) :=
  (line.splitOn ' ').reverse

/-- The text whose words, the last one first, are given. -/
def ofWordsFromEnd (words : List (List Char)) : List Char :=
  [' '].intercalate words.reverse

/-- A last word without a space is found before the words of the rest. -/
lemma wordsFromEnd_append {word : List Char} (h : ' ' ∉ word) (line : List Char) :
    wordsFromEnd (line ++ ' ' :: word) = word :: wordsFromEnd line := by
  unfold wordsFromEnd
  rw [List.splitOn_append_cons_self, List.splitOn_eq_singleton h, List.reverse_append]
  rfl

/-- The words of a text make up the text. -/
lemma ofWordsFromEnd_wordsFromEnd (text : List Char) :
    ofWordsFromEnd (wordsFromEnd text) = text := by
  unfold ofWordsFromEnd wordsFromEnd
  rw [List.reverse_reverse, List.intercalate_splitOn]

/-! ## Displays -/

/-- The binding that a line displays. -/
def Binding.ofDisplay? (line : List Char) : Option Binding :=
  match wordsFromEnd line with
  | slot :: type :: name => do
    let type ← ValueType.ofKeyword? (String.ofList type)
    let slot ← (String.ofList slot).toInt?
    return ⟨String.ofList (ofWordsFromEnd name), type, Int32.ofInt slot⟩
  | _ => none

/-- A binding's display shows that binding. -/
lemma Binding.ofDisplay?_display (binding : Binding) :
    ofDisplay? binding.display.toList = some binding := by
  have htype : ' ' ∉ binding.type.keyword.toList := fun hmem =>
    absurd (ValueType.isLower_of_mem_keyword _ _ hmem) (by decide)
  have hslot : ' ' ∉ binding.slot.toInt.repr.toList := fun hmem =>
    absurd (eq_dash_or_isDigit_of_mem_repr hmem) (by decide)
  have hwords : wordsFromEnd binding.display.toList =
      binding.slot.toInt.repr.toList :: binding.type.keyword.toList ::
        wordsFromEnd binding.name.toList := by
    rw [toList_display, wordsFromEnd_append hslot, wordsFromEnd_append htype]
  unfold ofDisplay?
  rw [hwords]
  simp [ofWordsFromEnd_wordsFromEnd]

/-- Reading every written form of a list gives the list back if each form is read back. -/
lemma mapM_map_eq_some {α β : Type} {write : α → β} {read? : β → Option α}
    (h : ∀ a, read? (write a) = some a) (items : List α) :
    (items.map write).mapM read? = some items := by
  induction items with
  | nil => rfl
  | cons first items ih =>
      rw [List.map_cons, List.mapM_cons, h, ih]
      rfl

/-- The types whose keywords stand between the commas of a text. -/
def ValueType.splitKeywords? (text : List Char) : Option (List ValueType) :=
  if text = [] then some []
  else (text.splitOn ',').mapM fun word => ofKeyword? (String.ofList word)

/-- Splitting joined keywords gives the types back. -/
lemma ValueType.splitKeywords?_joinKeywords (types : List ValueType) :
    splitKeywords? (joinKeywords types).toList = some types := by
  have hjoin : (joinKeywords types).toList =
      [','].intercalate (types.map fun type => type.keyword.toList) := by
    rw [joinKeywords, String.toList_intercalate, List.map_map]
    rfl
  cases types with
  | nil => rfl
  | cons first types =>
      have hcomma : ∀ word ∈ (first :: types).map fun type => type.keyword.toList, ',' ∉ word := by
        intro word hword hmem
        obtain ⟨type, -, rfl⟩ := List.mem_map.mp hword
        exact absurd (isLower_of_mem_keyword type _ hmem) (by decide)
      have hsplit := List.splitOn_intercalate ',' hcomma (by simp)
      rw [← hjoin] at hsplit
      have hne : (joinKeywords (first :: types)).toList ≠ [] := by
        intro hnil
        rw [hnil, List.splitOn_nil] at hsplit
        cases first <;> simp [keyword] at hsplit
      unfold splitKeywords?
      rw [if_neg hne, hsplit]
      exact mapM_map_eq_some (fun type => by simp) _

/-- The signature that a line displays. -/
def Signature.ofDisplay? (line : List Char) : Option Signature :=
  match wordsFromEnd line with
  | result :: _arrow :: params :: name => do
    let params ← ValueType.splitKeywords? params.tail.dropLast
    let result ← ValueType.ofKeyword? (String.ofList result)
    return ⟨String.ofList (ofWordsFromEnd name), params, result⟩
  | _ => none

/-- A signature's display shows that signature. -/
lemma Signature.ofDisplay?_display (signature : Signature) :
    ofDisplay? signature.display.toList = some signature := by
  have hresult : ' ' ∉ signature.result.keyword.toList := fun hmem =>
    absurd (ValueType.isLower_of_mem_keyword _ _ hmem) (by decide)
  have hparams : ' ' ∉ '(' :: ((ValueType.joinKeywords signature.params).toList ++ [')']) := by
    have hjoin : ' ' ∉ (ValueType.joinKeywords signature.params).toList := fun hmem =>
      absurd (ValueType.isLower_or_eq_comma_of_mem_joinKeywords _ _ hmem) (by decide)
    simp [hjoin]
  have hwords : wordsFromEnd signature.display.toList =
      signature.result.keyword.toList :: ['-', '>'] ::
        ('(' :: ((ValueType.joinKeywords signature.params).toList ++ [')'])) ::
          wordsFromEnd signature.name.toList := by
    rw [toList_display, wordsFromEnd_append hresult, wordsFromEnd_append (by decide),
      wordsFromEnd_append hparams]
  unfold ofDisplay?
  rw [hwords]
  simp [ofWordsFromEnd_wordsFromEnd, ValueType.splitKeywords?_joinKeywords]

/-! ## Scopes -/

namespace Scope

/-- One line put before what is read already. The list holds what is read of each scope that is
open at the line, the innermost first; its last element stands for the program around all
functions. -/
def readLine? (line : List Char) : List Scope → Option (List Scope)
  | [] => none
  | innermost :: outer =>
    if line = (indented (outer.length + 1) scopeClose).toList then
      some (empty :: innermost :: outer)
    else if line = (indented outer.length scopeOpen).toList then
      match outer with
      | [] => none
      | around :: outer => some (nested innermost around :: outer)
    else do
      let first ← Binding.ofDisplay? (line.drop (2 * outer.length))
      return binding first innermost :: outer

/-- A closing marker one level further in begins a scope from its end. -/
lemma readLine?_scopeClose (innermost : Scope) (outer : List Scope) :
    readLine? (indented (outer.length + 1) scopeClose).toList (innermost :: outer) =
      some (empty :: innermost :: outer) := by
  simp only [readLine?, if_true]

/-- An opening marker makes the innermost scope an item of the scope around it. -/
lemma readLine?_scopeOpen (innermost around : Scope) (outer : List Scope) :
    readLine? (indented (outer.length + 1) scopeOpen).toList (innermost :: around :: outer) =
      some (nested innermost around :: outer) := by
  have hne : (indented (outer.length + 1) scopeOpen).toList ≠
      (indented ((around :: outer).length + 1) scopeClose).toList := by
    intro heq
    have hmarkers := congrArg (List.dropWhile (· = ' ')) heq
    rw [dropWhile_toList_indented (by decide), dropWhile_toList_indented (by decide)] at hmarkers
    exact absurd hmarkers (by decide)
  rw [readLine?, if_neg hne, if_pos (by simp)]

/-- A binding at the level of the innermost scope is put before the items of that scope. -/
lemma readLine?_binding (first : Binding) (innermost : Scope) (outer : List Scope) :
    readLine? (indented outer.length first.display).toList (innermost :: outer) =
      some (binding first innermost :: outer) := by
  have hclose := toList_indented_ne first.display_ne_empty (by decide : scopeClose ≠ "")
    first.getLast?_display_ne_dash
  have hopen := toList_indented_ne first.display_ne_empty (by decide : scopeOpen ≠ "")
    first.getLast?_display_ne_dash
  unfold readLine?
  dsimp only
  rw [if_neg (hclose _ _), if_neg (hopen _ _), toList_indented, List.drop_left' (by simp),
    Binding.ofDisplay?_display]
  rfl

/-- **Reading the items of a scope.** From its end on, a scope that is open at the level of the
lines becomes the scope that was printed; the scopes around it stay as they are. -/
lemma foldrM_readLine?_dumpItems (scope : Scope) (outer : List Scope) :
    ((scope.dumpItems outer.length).map String.toList).foldrM readLine? (empty :: outer) =
      some (scope :: outer) := by
  induction scope generalizing outer with
  | empty => rfl
  | binding first rest ih =>
      rw [dumpItems, List.map_cons, List.foldrM_cons, ih]
      exact readLine?_binding first rest outer
  | nested inner rest ihInner ihRest =>
      have hinner := ihInner (rest :: outer)
      rw [List.length_cons] at hinner
      rw [dumpItems, List.map_cons, List.map_append, List.map_cons, List.foldrM_cons,
        List.foldrM_append, List.foldrM_cons, ihRest]
      change ((readLine? _ (rest :: outer)).bind fun read =>
        List.foldrM readLine? read _).bind _ = _
      rw [readLine?_scopeClose]
      change (List.foldrM readLine? (empty :: rest :: outer) _).bind _ = _
      rw [hinner]
      exact readLine?_scopeOpen inner rest outer

/-- The scopes of the functions of a program, which has no binding of its own. -/
def functions? : Scope → Option (List Scope)
  | empty => some []
  | binding _ _ => none
  | nested inner rest => rest.functions?.map (inner :: ·)

/-- The functions of a program are those it was made of. -/
lemma functions?_program (functions : List Scope) :
    (program functions).functions? = some functions := by
  induction functions with
  | nil => rfl
  | cons first functions ih =>
      change (program functions).functions?.map _ = _
      rw [ih]
      rfl

end Scope

/-! ## Outlines -/

namespace Outline

/-- Whether a line stands before the first line that opens a scope. -/
def isBeforeScopes (line : List Char) : Bool :=
  line ≠ (indented 1 scopeOpen).toList

/-- The outline that some lines show: the signatures after the library functions', then the scopes
up to the line that closes the global scope. -/
def ofLines? (lines : List (List Char)) : Option Outline := do
  let shown := (lines.drop (librarySignatures.length + 1)).dropLast
  let signatures ← (shown.takeWhile isBeforeScopes).mapM Signature.ofDisplay?
  match ← (shown.dropWhile isBeforeScopes).foldrM Scope.readLine? [.empty] with
  | [program] => return ⟨signatures, ← program.functions?⟩
  | _ => none

/-- The outline that a dump shows. -/
def ofDump? (dump : String) : Option Outline :=
  ofLines? (Text.lines dump.toList)

/-- The signatures come before the scopes, and a scope begins with the line that opens it. -/
lemma span_isBeforeScopes (outline : Outline) :
    let signatureLines := outline.signatures.map fun signature => signature.display.toList
    let scopeLines := ((Scope.program outline.scopes).dumpItems 0).map String.toList
    (signatureLines ++ scopeLines).takeWhile isBeforeScopes = signatureLines ∧
      (signatureLines ++ scopeLines).dropWhile isBeforeScopes = scopeLines := by
  intro signatureLines scopeLines
  have hsignatures : ∀ line ∈ signatureLines, isBeforeScopes line = true := by
    intro line hline
    obtain ⟨signature, -, rfl⟩ := List.mem_map.mp hline
    have hne := toList_indented_ne signature.display_ne_empty (by decide : scopeOpen ≠ "")
      signature.getLast?_display_ne_dash 0 1
    rw [toList_indented] at hne
    simpa [isBeforeScopes] using hne
  have hscopes : scopeLines.takeWhile isBeforeScopes = [] ∧
      scopeLines.dropWhile isBeforeScopes = scopeLines := by
    unfold scopeLines
    cases outline.scopes with
    | nil => exact ⟨rfl, rfl⟩
    | cons first functions => simp [Scope.program, Scope.dumpItems, isBeforeScopes]
  rw [List.takeWhile_append_of_pos hsignatures, List.dropWhile_append_of_pos hsignatures,
    hscopes.1, hscopes.2, List.append_nil]
  exact ⟨rfl, rfl⟩

/-- **Reading the lines of a dump** gives the outline back, whatever the names are. -/
lemma ofLines?_dumpLines (outline : Outline) :
    ofLines? (outline.dumpLines.map String.toList) = some outline := by
  have hshown :
      ((outline.dumpLines.map String.toList).drop (librarySignatures.length + 1)).dropLast =
      (outline.signatures.map fun signature => signature.display.toList) ++
        ((Scope.program outline.scopes).dumpItems 0).map String.toList := by
    rw [dumpLines_eq]
    simp [librarySignatures, Function.comp_def]
  obtain ⟨hbefore, hafter⟩ := outline.span_isBeforeScopes
  have hsignatures : (outline.signatures.map fun signature => signature.display.toList).mapM
      Signature.ofDisplay? = some outline.signatures :=
    mapM_map_eq_some Signature.ofDisplay?_display outline.signatures
  have hscopes : (((Scope.program outline.scopes).dumpItems 0).map String.toList).foldrM
      Scope.readLine? [.empty] = some [Scope.program outline.scopes] :=
    Scope.foldrM_readLine?_dumpItems (Scope.program outline.scopes) []
  unfold ofLines?
  simp only [hshown, hbefore, hafter, hsignatures, hscopes]
  change ((Scope.program outline.scopes).functions?.bind fun scopes =>
    some (⟨outline.signatures, scopes⟩ : Outline)) = some outline
  rw [Scope.functions?_program]
  rfl

/-- **A dump loses nothing.** Where no name of an outline holds a newline, reading its dump gives
the outline back, so that no other such outline has the same dump. The names may otherwise hold
anything: spaces, parentheses, commas, arrows, the texts of the markers, or nothing at all. -/
theorem ofDump?_dump (outline : Outline) (h : outline.NamesOneLine) :
    ofDump? outline.dump = some outline ∧
      ∀ other : Outline, other.NamesOneLine → other.dump = outline.dump → other = outline := by
  have hread : ∀ printed : Outline, printed.NamesOneLine →
      ofDump? printed.dump = some printed := by
    intro printed hprinted
    unfold ofDump?
    rw [lines_dump hprinted, ofLines?_dumpLines]
  refine ⟨hread outline h, ?_⟩
  intro other hother hdump
  have hsame := hread other hother
  rw [hdump, hread outline h] at hsame
  exact (Option.some.inj hsame).symm

/-- The dump of an outline with misleading names is read back. -/
theorem ofDump?_dump_lookalikes :
    lookalikes.NamesOneLine ∧ ofDump? lookalikes.dump = some lookalikes :=
  ⟨by decide, (ofDump?_dump lookalikes (by decide)).1⟩

end Outline

end Conformance
