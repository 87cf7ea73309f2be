import Conformance.Proofs.Toml.Literals
import Conformance.Proofs.Toml.RootKeys

/-!
# Documents of strings

Documents that do nothing but set strings under keys of the root, in every layout: with spaces
between the parts of a line, with comments and empty lines, with either line end, with bare or
quoted keys and with any kind of string literal.

* **Parts of a line** (`Spaces`, `LineTail`, `KeyForm`, `WrittenSetting`): how each of them may be
  written, and that its reader stops right behind it.
* **One line** (`readsStatements_of_some`, `readsStatements_of_none`): a line sets the string that
  is written in it, or nothing.
* **Main statement** (`document?_chars`): the root has the strings of the lines, in their order,
  whatever the layout is.
-/

namespace Conformance.Toml

/-! ## Parts of a line -/

/-- Spaces within a line. -/
structure Spaces where
  /-- The spaces. -/
  chars : List Char
  /-- They are nothing else. -/
  isSpace_of_mem : ∀ c ∈ chars, isSpace c = true

/-- No spaces. -/
def Spaces.none : Spaces :=
  ⟨[], nofun⟩

/-- One space. -/
def Spaces.one : Spaces :=
  ⟨[' '], List.forall_mem_singleton.mpr rfl⟩

/-- Nothing is skipped of a text that begins with no space. -/
lemma skipSpace_eq_self {text : List Char} (h : ∀ c ∈ text.head?, isSpace c = false) :
    skipSpace text = text := by
  cases text with
  | nil => rfl
  | cons c rest => exact List.dropWhile_cons_of_neg (by simp [h c rfl])

/-- Spaces are skipped. -/
lemma Spaces.skipSpace_append (spaces : Spaces) (rest : List Char) :
    skipSpace (spaces.chars ++ rest) = skipSpace rest :=
  List.dropWhile_append_of_pos spaces.isSpace_of_mem

/-- What is behind a line: the next line, or nothing at the end of the text. -/
inductive EndsLine : List Char → List Char → Prop where
  | newline (rest : List Char) : EndsLine ('\n' :: rest) rest
  | lineEnd (rest : List Char) : EndsLine ('\r' :: '\n' :: rest) rest
  | stop : EndsLine [] []

/-- A line ends in none of the characters that it may have. -/
lemma EndsLine.head_cases {text after : List Char} (h : EndsLine text after) :
    ∀ c ∈ text.head?, c = '\n' ∨ c = '\r' := by
  cases h with
  | newline rest => rintro c ⟨⟩; exact .inl rfl
  | lineEnd rest => rintro c ⟨⟩; exact .inr rfl
  | stop => exact nofun

/-- The next line is no longer than the line end with it, and shorter if there is a line end. -/
lemma EndsLine.length_le {text after : List Char} (h : EndsLine text after) :
    after.length ≤ text.length ∧ (text ≠ [] → after.length < text.length) := by
  cases h with
  | newline rest => simp
  | lineEnd rest =>
      simp only [List.length_cons]
      omega
  | stop => simp

/-- What may stand behind the last part of a line: spaces, and a comment if there is one. -/
structure LineTail where
  /-- The spaces. -/
  spaces : Spaces
  /-- The comment behind its number sign. -/
  comment : Option (List Char)
  /-- The comment has no control character but tabs. -/
  isPlain_of_mem : ∀ text ∈ comment, ∀ c ∈ text, isPlain c = true

/-- Nothing more on the line. -/
def LineTail.none : LineTail :=
  ⟨.none, Option.none, nofun⟩

/-- A comment with its number sign, if there is one. -/
def LineTail.commentChars (tail : LineTail) : List Char :=
  (tail.comment.map ('#' :: ·)).getD []

/-- The characters behind the last part of a line. -/
def LineTail.chars (tail : LineTail) : List Char :=
  tail.spaces.chars ++ tail.commentChars

namespace LineTail

/-- Before a comment or the end of the line there are no more spaces to skip. -/
lemma skipSpace_comment (tail : LineTail) {text after : List Char} (h : EndsLine text after) :
    skipSpace (tail.commentChars ++ text) = tail.commentChars ++ text := by
  apply skipSpace_eq_self
  intro c hc
  rw [commentChars] at hc
  cases hcomment : tail.comment with
  | none =>
      rw [hcomment] at hc
      rcases h.head_cases c hc with rfl | rfl <;> decide
  | some comment =>
      rw [hcomment] at hc
      cases hc
      decide

/-- A comment is skipped up to the end of its line. -/
lemma skipComment_append (tail : LineTail) {text after : List Char} (h : EndsLine text after) :
    skipComment (tail.commentChars ++ text) = text := by
  rw [commentChars]
  cases hcomment : tail.comment with
  | none => cases h <;> rfl
  | some comment =>
      have hplain : ∀ c ∈ comment, isPlain c = true := tail.isPlain_of_mem comment hcomment
      have hskip : skipComment ('#' :: (comment ++ text)) =
          (comment ++ text).dropWhile isPlain := rfl
      rw [Option.map_some, Option.getD_some, List.cons_append, hskip,
        List.dropWhile_append_of_pos hplain]
      cases h <;> rfl

/-- **The rest of a line** is skipped, and reading goes on behind its end. -/
lemma endLine?_append (tail : LineTail) {text after : List Char} (h : EndsLine text after) :
    endLine? (tail.chars ++ text) = some after := by
  rw [endLine?, chars, List.append_assoc, tail.spaces.skipSpace_append, tail.skipSpace_comment h,
    tail.skipComment_append h]
  cases h <;> rfl

/-- No mark follows a value at the end of a line. -/
lemma head?_ne_mark (tail : LineTail) {text after : List Char} (h : EndsLine text after)
    (mark : Mark) : (tail.chars ++ text).head? ≠ some mark.char := by
  intro hhead
  have hmark : isSpace mark.char = false ∧ mark.char ≠ '#' ∧ mark.char ≠ '\n' ∧
      mark.char ≠ '\r' := by
    cases mark <;> decide
  have hspaces := tail.spaces.isSpace_of_mem
  rw [chars, commentChars] at hhead
  cases hchars : tail.spaces.chars with
  | cons c rest =>
      rw [hchars] at hhead
      obtain rfl : c = mark.char := Option.some.inj hhead
      rw [hspaces mark.char (by simp [hchars])] at hmark
      cases hmark.1
  | nil =>
      rw [hchars] at hhead
      cases hcomment : tail.comment with
      | some comment =>
          rw [hcomment] at hhead
          exact hmark.2.1 (Option.some.inj hhead).symm
      | none =>
          rw [hcomment] at hhead
          rcases h.head_cases mark.char hhead with heq | heq
          · exact hmark.2.2.1 heq
          · exact hmark.2.2.2 heq

end LineTail

/-- How a key of one part may be written. -/
inductive KeyForm : List Char → String → Prop where
  /-- As it is, if it needs no marks. -/
  | bare {written : List Char} (hne : written ≠ []) (hbare : ∀ c ∈ written, isBare c = true) :
      KeyForm written (String.ofList written)
  /-- As a string of one line. -/
  | quoted {mark : Mark} {written text : List Char} (body : Body mark false written text) :
      KeyForm (mark.char :: (written ++ [mark.char])) (String.ofList text)

/-- A key begins with none of the characters that begin something else. -/
lemma KeyForm.exists_cons {written : List Char} {name : String} (h : KeyForm written name) :
    ∃ first rest, written = first :: rest ∧ isSpace first = false ∧ first ≠ '[' ∧ first ≠ '#' ∧
      first ≠ '\n' ∧ first ≠ '\r' := by
  cases h with
  | bare hne hbare =>
      obtain ⟨first, rest, rfl⟩ := List.exists_cons_of_ne_nil hne
      have hfirst : isBare first = true := hbare first List.mem_cons_self
      have hother : ∀ c, isBare c = false → first ≠ c := by
        rintro c hc rfl
        rw [hfirst] at hc
        cases hc
      refine ⟨first, rest, rfl, ?_, hother _ (by decide), hother _ (by decide),
        hother _ (by decide), hother _ (by decide)⟩
      simp [isSpace, hother ' ' (by decide), hother '\t' (by decide)]
  | @quoted mark written _ body =>
      refine ⟨mark.char, _, rfl, ?_⟩
      cases mark <;> decide

/-- **A key** is read up to a character that cannot be part of it. -/
lemma KeyForm.simpleKey?_eq {written : List Char} {name : String} (h : KeyForm written name)
    {rest : List Char} (hrest : ∀ c ∈ rest.head?, isBare c = false) :
    simpleKey? (written ++ rest) = some (⟨name, ⟨written ++ rest, rest⟩⟩, rest) := by
  cases h with
  | bare hne hbare =>
      obtain ⟨first, others, rfl⟩ := List.exists_cons_of_ne_nil hne
      have hfirst : isBare first = true := hbare first List.mem_cons_self
      have hstop : rest.takeWhile isBare = [] ∧ rest.dropWhile isBare = rest := by
        cases rest with
        | nil => exact ⟨rfl, rfl⟩
        | cons c rest => simp [hrest c rfl]
      rw [simpleKey?]
      · rw [List.takeWhile_append_of_pos hbare, List.dropWhile_append_of_pos hbare, hstop.1,
          hstop.2, List.append_nil]
      · rintro tail heq
        rw [(List.cons.inj heq).1] at hfirst
        exact absurd hfirst (by decide)
      · rintro tail heq
        rw [(List.cons.inj heq).1] at hfirst
        exact absurd hfirst (by decide)
  | @quoted mark written text body =>
      have hline := lineString?_eq body rest
      rw [List.cons_append, List.append_assoc, List.singleton_append]
      cases mark with
      | basic =>
          change (lineString? _).map _ = _
          rw [hline]
          rfl
      | literal =>
          change (lineString? _).map _ = _
          rw [hline]
          rfl

/-- A string under a key, as it may be written. -/
structure WrittenSetting where
  /-- The key as it is written. -/
  key : List Char
  /-- The key. -/
  name : String
  /-- The key may be written so. -/
  key_form : KeyForm key name
  /-- The spaces before the equals sign. -/
  before : Spaces
  /-- The spaces behind it. -/
  behind : Spaces
  /-- The string as it is written. -/
  value : List Char
  /-- The string. -/
  text : List Char
  /-- The string may be written so. -/
  literal : Literal value text

/-- A literal begins with a mark. -/
lemma Literal.exists_cons {written text : List Char} (h : Literal written text) :
    ∃ (mark : Mark) (rest : List Char), written = mark.char :: rest := by
  cases h with
  | @line mark _ _ body => exact ⟨mark, _, rfl⟩
  | @long mark _ _ _ _ body => exact ⟨mark, _, rfl⟩

/-- A literal is read as a value. -/
lemma Literal.value?_eq {written text rest : List Char} (h : Literal written text) (depth : Nat)
    (hrest : ∀ mark : Mark, rest.head? ≠ some mark.char) :
    value? depth (written ++ rest) = some (.string (String.ofList text), rest) := by
  have hstring := h.string?_eq hrest
  obtain ⟨mark, more, rfl⟩ := h.exists_cons
  have hvalue : value? depth (mark.char :: more ++ rest) =
      (string? (mark.char :: more ++ rest)).map fun read =>
        (.string (String.ofList read.1), read.2) := by
    cases mark <;> cases depth <;> rfl
  rw [hvalue, hstring]
  rfl

namespace WrittenSetting

/-- What is written of a setting behind its key. -/
def valueChars (setting : WrittenSetting) : List Char :=
  setting.before.chars ++ '=' :: (setting.behind.chars ++ setting.value)

/-- The characters of a setting. -/
def chars (setting : WrittenSetting) : List Char :=
  setting.key ++ setting.valueChars

/-- The entry that a setting makes in a text that goes on behind it. -/
def entry (setting : WrittenSetting) (rest : List Char) : Entry Item where
  key := ⟨setting.name, ⟨setting.chars ++ rest, setting.valueChars ++ rest⟩⟩
  stretch := ⟨setting.value ++ rest, rest⟩
  item := .string (String.ofList setting.text)

/-- The key of a setting is read up to the equals sign. -/
lemma keyPath?_eq (setting : WrittenSetting) (rest : List Char) :
    keyPath? (setting.chars ++ rest) =
      some (([], (setting.entry rest).key),
        '=' :: (setting.behind.chars ++ setting.value ++ rest)) := by
  obtain ⟨first, others, hkey, hfirst, -⟩ := setting.key_form.exists_cons
  have hstart : skipSpace (setting.chars ++ rest) = setting.chars ++ rest := by
    apply skipSpace_eq_self
    rw [chars, hkey]
    rintro c ⟨⟩
    exact hfirst
  have hstop : ∀ c ∈ (setting.valueChars ++ rest).head?, isBare c = false := by
    intro c hc
    have hspaces := setting.before.isSpace_of_mem
    rw [valueChars] at hc
    cases hbefore : setting.before.chars with
    | nil =>
        rw [hbefore] at hc
        cases hc
        decide
    | cons space spaces =>
        rw [hbefore] at hc
        obtain rfl : space = c := Option.some.inj hc
        have hcases : space = ' ' ∨ space = '\t' := by
          simpa [isSpace] using hspaces space (by simp [hbefore])
        rcases hcases with rfl | rfl <;> decide
  have hequals : skipSpace (setting.valueChars ++ rest) =
      '=' :: (setting.behind.chars ++ setting.value ++ rest) := by
    rw [valueChars, List.append_assoc, setting.before.skipSpace_append]
    exact skipSpace_eq_self (by rintro c ⟨⟩; decide)
  have hsimple := setting.key_form.simpleKey?_eq hstop
  rw [← List.append_assoc, ← chars] at hsimple
  have hparts : keyParts? keyLimit (setting.chars ++ rest) =
      some ([(setting.entry rest).key],
        '=' :: (setting.behind.chars ++ setting.value ++ rest)) := by
    change keyParts? (78 + 1) _ = _
    rw [keyParts?, hstart, hsimple]
    simp only [hequals]
    rfl
  rw [keyPath?, hparts]
  rfl

/-- A setting is read as an assignment of its string to its key. -/
lemma assignment?_eq (setting : WrittenSetting) {rest : List Char}
    (hrest : ∀ mark : Mark, rest.head? ≠ some mark.char) :
    assignment? (value? nestingLimit) (setting.chars ++ rest) =
      some (⟨[], setting.entry rest⟩, rest) := by
  have hvalue : skipSpace (setting.behind.chars ++ setting.value ++ rest) =
      setting.value ++ rest := by
    rw [List.append_assoc, setting.behind.skipSpace_append]
    obtain ⟨mark, more, hvalue⟩ := setting.literal.exists_cons
    apply skipSpace_eq_self
    rw [hvalue]
    rintro c ⟨⟩
    cases mark <;> decide
  rw [assignment?, setting.keyPath?_eq]
  simp only [Option.bind_eq_bind, Option.bind_some, after?, if_true, hvalue,
    setting.literal.value?_eq nestingLimit hrest]
  rfl

/-- A setting is read as a statement that sets its string under its key. -/
lemma statement?_eq (setting : WrittenSetting) {rest : List Char}
    (hrest : ∀ mark : Mark, rest.head? ≠ some mark.char) :
    statement? (setting.chars ++ rest) = some (Statement.ofEntry (setting.entry rest), rest) := by
  obtain ⟨first, others, hkey, -, hbracket, -⟩ := setting.key_form.exists_cons
  have hne : ∀ more, setting.chars ++ rest ≠ '[' :: more := by
    intro more heq
    rw [chars, hkey] at heq
    exact hbracket (List.cons.inj heq).1
  rw [statement?]
  · rw [setting.assignment?_eq hrest]
    rfl
  · exact fun more heq => hne _ heq
  · exact fun more heq => hne _ heq

end WrittenSetting

/-! ## One line -/

/-- A text is read as statements, whatever number of steps is allowed beyond its length. -/
def ReadsStatements (text : List Char) (statements : List Statement) : Prop :=
  ∀ steps, text.length < steps → statements? steps text = some statements

/-- An empty text has no statements. -/
lemma readsStatements_nil : ReadsStatements [] [] := by
  intro steps hsteps
  obtain ⟨steps, rfl⟩ := Nat.exists_eq_succ_of_ne_zero (Nat.ne_of_gt hsteps)
  rfl

/-- A line of a document that does nothing but set strings. -/
structure WrittenLine where
  /-- The spaces that it begins with. -/
  indent : Spaces
  /-- What it sets, unless it is empty or just a comment. -/
  setting : Option WrittenSetting
  /-- What stands behind that. -/
  tail : LineTail

namespace WrittenLine

/-- The characters of a line, without its end. -/
def chars (line : WrittenLine) : List Char :=
  line.indent.chars ++ ((line.setting.map WrittenSetting.chars).getD [] ++ line.tail.chars)

/-- A line that sets nothing is passed over. -/
lemma readsStatements_of_none {line : WrittenLine} (hnone : line.setting = none)
    {text after : List Char} (h : EndsLine text after) {statements : List Statement}
    (hafter : ReadsStatements after statements) :
    ReadsStatements (line.chars ++ text) statements := by
  intro steps hsteps
  obtain ⟨steps, rfl⟩ := Nat.exists_eq_succ_of_ne_zero (Nat.ne_of_gt (Nat.zero_lt_of_lt hsteps))
  have hchars : line.chars ++ text = line.indent.chars ++
      (line.tail.spaces.chars ++ (line.tail.commentChars ++ text)) := by
    rw [chars, hnone, LineTail.chars]
    simp
  have hskip : skipSpace (line.chars ++ text) = line.tail.commentChars ++ text := by
    rw [hchars, line.indent.skipSpace_append, line.tail.spaces.skipSpace_append,
      line.tail.skipSpace_comment h]
  have hend : endLine? (line.tail.commentChars ++ text) = some after :=
    LineTail.endLine?_append { line.tail with spaces := .none } h
  have hlength : (line.tail.commentChars ++ text).length ≤ steps := by
    rw [hchars, List.length_append, List.length_append] at hsteps
    omega
  rw [statements?, hskip]
  cases hcomment : line.tail.comment with
  | some comment =>
      have hhash : line.tail.commentChars = '#' :: comment := by
        rw [LineTail.commentChars, hcomment]
        rfl
      have hle := h.length_le.1
      rw [hhash, List.length_append, List.length_cons] at hlength
      rw [hhash] at hend ⊢
      have hidle : isIdle ('#' :: comment ++ text) = true := rfl
      rw [List.cons_append] at hend hidle ⊢
      simp only [hidle, hend, if_true]
      exact hafter steps (by omega)
  | none =>
      have hempty : line.tail.commentChars = [] := by
        rw [LineTail.commentChars, hcomment]
        rfl
      rw [hempty, List.nil_append] at hend hlength ⊢
      have hlt := h.length_le.2
      cases h with
      | newline rest =>
          have hidle : isIdle ('\n' :: after) = true := rfl
          simp only [hidle, hend, if_true]
          exact hafter steps (Nat.lt_of_lt_of_le (hlt nofun) hlength)
      | lineEnd rest =>
          have hidle : isIdle ('\r' :: '\n' :: after) = true := rfl
          simp only [hidle, hend, if_true]
          exact hafter steps (Nat.lt_of_lt_of_le (hlt nofun) hlength)
      | stop => exact hafter 1 (by decide)

/-- A line that sets a string is read as the statement that does so. -/
lemma readsStatements_of_some {line : WrittenLine} {setting : WrittenSetting}
    (hsome : line.setting = some setting) {text after : List Char} (h : EndsLine text after)
    {statements : List Statement} (hafter : ReadsStatements after statements) :
    ReadsStatements (line.chars ++ text)
      (Statement.ofEntry (setting.entry (line.tail.chars ++ text)) :: statements) := by
  intro steps hsteps
  obtain ⟨steps, rfl⟩ := Nat.exists_eq_succ_of_ne_zero (Nat.ne_of_gt (Nat.zero_lt_of_lt hsteps))
  obtain ⟨first, others, hkey, hspace, -, hhash, hnewline, hreturn⟩ :=
    setting.key_form.exists_cons
  have hchars : line.chars ++ text =
      line.indent.chars ++ (setting.chars ++ (line.tail.chars ++ text)) := by
    rw [chars, hsome]
    simp
  obtain ⟨more, hmore⟩ : ∃ more, setting.chars ++ (line.tail.chars ++ text) = first :: more := by
    rw [WrittenSetting.chars, hkey]
    exact ⟨_, rfl⟩
  have hskip : skipSpace (line.chars ++ text) = first :: more := by
    rw [hchars, line.indent.skipSpace_append, hmore]
    exact skipSpace_eq_self (by rintro c ⟨⟩; exact hspace)
  have hidle : isIdle (first :: more) = false := by
    rw [isIdle]
    · rintro rest heq
      exact hhash (List.cons.inj heq).1
    · rintro rest heq
      exact hnewline (List.cons.inj heq).1
    · rintro rest heq
      exact hreturn (List.cons.inj heq).1
  have hstatement := setting.statement?_eq (line.tail.head?_ne_mark h)
  rw [hmore] at hstatement
  have hsteps' : after.length < steps := by
    have hlength := congrArg List.length hmore
    have hle := h.length_le.1
    rw [hchars, hmore] at hsteps
    simp only [List.length_append, List.length_cons, WrittenSetting.chars, hkey] at hsteps hlength
    omega
  rw [statements?, hskip]
  simp only [hidle, Bool.false_eq_true, if_false, hstatement, line.tail.endLine?_append h,
    hafter steps hsteps', Option.bind_eq_bind, Option.bind_some]
  rfl

end WrittenLine

/-! ## Documents -/

/-- How a line may end. -/
inductive LineEnd where
  | newline
  | returned
  deriving DecidableEq

/-- The characters that end a line. -/
def LineEnd.chars : LineEnd → List Char
  | newline => ['\n']
  | returned => ['\r', '\n']

/-- Behind the end of a line stands the next one. -/
lemma LineEnd.endsLine (lineEnd : LineEnd) (rest : List Char) :
    EndsLine (lineEnd.chars ++ rest) rest := by
  cases lineEnd with
  | newline => exact .newline rest
  | returned => exact .lineEnd rest

/-- A document that does nothing but set strings under keys of the root. -/
structure WrittenDocument where
  /-- Its lines but the last, with their ends. -/
  lines : List (WrittenLine × LineEnd)
  /-- The last line, which may be empty. -/
  last : WrittenLine

namespace WrittenDocument

/-- The characters of a document. -/
def chars (document : WrittenDocument) : List Char :=
  document.lines.flatMap (fun (line, lineEnd) => line.chars ++ lineEnd.chars) ++
    document.last.chars

/-- The settings of a document in order. -/
def settings (document : WrittenDocument) : List WrittenSetting :=
  document.lines.filterMap (·.1.setting) ++ document.last.setting.toList

/-- An entry sets the string of a setting under its key. -/
def Sets (entry : Entry Item) (setting : WrittenSetting) : Prop :=
  entry.key.text = setting.name ∧ entry.item = .string (String.ofList setting.text)

/-- Entries that set settings have their names. -/
lemma map_text_eq {values : Entries} {settings : List WrittenSetting}
    (h : List.Forall₂ Sets values settings) :
    values.map (·.key.text) = settings.map (·.name) := by
  induction h with
  | nil => rfl
  | cons hfirst _ ih => rw [List.map_cons, List.map_cons, hfirst.1, ih]

/-- **The statements of a document** set the strings of its lines in order. -/
lemma readsStatements (document : WrittenDocument) :
    ∃ entries : Entries, ReadsStatements document.chars (entries.map Statement.ofEntry) ∧
      List.Forall₂ Sets entries document.settings := by
  obtain ⟨lines, last⟩ := document
  induction lines with
  | nil =>
      cases hsetting : last.setting with
      | none =>
          refine ⟨[], ?_, ?_⟩
          · have hlast := WrittenLine.readsStatements_of_none hsetting .stop readsStatements_nil
            simpa [chars] using hlast
          · simp [settings, hsetting]
      | some setting =>
          refine ⟨[setting.entry (last.tail.chars ++ [])], ?_, ?_⟩
          · have hlast := WrittenLine.readsStatements_of_some hsetting .stop readsStatements_nil
            simpa [chars] using hlast
          · have hsets : Sets (setting.entry (last.tail.chars ++ [])) setting := ⟨rfl, rfl⟩
            simpa [settings, hsetting] using hsets
  | cons first lines ih =>
      obtain ⟨line, lineEnd⟩ := first
      obtain ⟨entries, hreads, hsets⟩ := ih
      have hends := lineEnd.endsLine (chars ⟨lines, last⟩)
      have hchars : chars ⟨(line, lineEnd) :: lines, last⟩ =
          line.chars ++ (lineEnd.chars ++ chars ⟨lines, last⟩) := by
        simp [chars]
      rw [hchars]
      cases hsetting : line.setting with
      | none =>
          refine ⟨entries, line.readsStatements_of_none hsetting hends hreads, ?_⟩
          simpa [settings, hsetting] using hsets
      | some setting =>
          refine ⟨_ :: entries, line.readsStatements_of_some hsetting hends hreads, ?_⟩
          have hfirst : Sets (setting.entry (line.tail.chars ++
              (lineEnd.chars ++ chars ⟨lines, last⟩))) setting := ⟨rfl, rfl⟩
          have hall := hsets.cons hfirst
          simpa [settings, hsetting] using hall

/-- A text that is read as statements begins with no byte order mark. -/
lemma skipByteOrderMark_eq_self {text : List Char} {statements : List Statement}
    (h : ReadsStatements text statements) : skipByteOrderMark text = text := by
  rw [skipByteOrderMark.eq_def]
  split
  · next rest =>
    have hread := h (rest.length + 2) (Nat.lt_succ_self _)
    have hnone : statements? (rest.length + 2) ('\uFEFF' :: rest) = none := rfl
    rw [hnone] at hread
    cases hread
  · rfl

/-- **A document is read** as the strings that its lines set, in their order; two lines may not set
the same key. -/
lemma document?_chars (document : WrittenDocument) :
    ∃ values : Entries, List.Forall₂ Sets values document.settings ∧
      documentStatements? document.chars = some (values.map Statement.ofEntry) ∧
        ∀ entries, document? document.chars = some entries ↔
          (document.settings.map (·.name)).Nodup ∧ entries = values := by
  obtain ⟨values, hreads, hsets⟩ := document.readsStatements
  have hstatements : documentStatements? document.chars = some (values.map Statement.ofEntry) := by
    rw [documentStatements?, skipByteOrderMark_eq_self hreads]
    exact hreads _ (Nat.lt_succ_self _)
  refine ⟨values, hsets, hstatements, fun entries => ?_⟩
  rw [← map_text_eq hsets]
  exact document?_eq_some_iff_of_statements hstatements

end WrittenDocument

end Conformance.Toml
