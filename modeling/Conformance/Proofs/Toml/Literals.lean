import Conformance.Toml.Grammar
import Mathlib.Tactic.Lemma

/-!
# String literals

The many ways to write one text as a string, and that each of them is read as the text.

* **Escapes** (`Escape`): what may stand behind a backslash for a character, a mark or the digits of
  its code point.
* **Bodies** (`Body`): what may stand between the marks of a string for a text. A long string may
  also have line ends; no mark is part of a body.
* **Machines** (`ReadsBody`, `scan_body`): a machine that treats single characters rightly returns
  the text of every body. The four machines do.
* **Literals** (`Literal`, `Literal.string?_eq`): reading a literal gives its text back.
* **Canonical literals** (`canonical`, `literal_canonical`): every text has a literal.
-/

namespace Conformance.Toml

/-! ## Escapes -/

/-- The marks that stand for one character behind a backslash. -/
def shortEscapes : List (Char × Char) :=
  [('b', '\x08'), ('t', '\t'), ('n', '\n'), ('f', '\x0c'), ('r', '\r'), ('"', '"'), ('\\', '\\')]

/-- The marks that announce a code point, with the number of its digits. -/
def codeMarks : List (Char × Nat) :=
  [('u', 4), ('U', 8)]

/-- What may stand behind a backslash for a character. -/
inductive Escape : List Char → Char → Prop where
  /-- The mark of the character. -/
  | short {mark c : Char} (h : (mark, c) ∈ shortEscapes) : Escape [mark] c
  /-- The code point of the character, in hexadecimal digits. -/
  | code {mark : Char} {digits : List Char} {c : Char} (hmark : (mark, digits.length) ∈ codeMarks)
      (hdigits : ∀ digit ∈ digits, (hexValue? digit).isSome = true)
      (hcode : ofDigits 16 digits = c.toNat) : Escape (mark :: digits) c

/-- The character of its own code point. -/
lemma scalar?_toNat (c : Char) : scalar? c.toNat = some c := by
  have hvalid : c.toNat.isValidChar := c.valid
  rw [scalar?, dif_pos hvalid]
  rfl

/-- A mark behind a backslash stands for its character. -/
lemma escapeStep_short {mark c : Char} (h : (mark, c) ∈ shortEscapes) :
    escapeStep .escaped mark = .emit [c] .plain := by
  have hall : ∀ pair ∈ shortEscapes, escapeStep .escaped pair.1 = .emit [pair.2] .plain := by
    intro pair hpair
    simp only [shortEscapes, List.mem_cons, List.not_mem_nil, or_false] at hpair
    rcases hpair with rfl | rfl | rfl | rfl | rfl | rfl | rfl <;> rfl
  exact hall _ h

/-- A mark that announces a code point is followed by its digits. -/
lemma escapeStep_code {mark : Char} {count : Nat} (h : (mark, count + 1) ∈ codeMarks) :
    escapeStep .escaped mark = .emit [] (.digits count 0) := by
  have hall : ∀ pair ∈ codeMarks,
      escapeStep .escaped pair.1 = .emit [] (.digits (pair.2 - 1) 0) := by
    intro pair hpair
    simp only [codeMarks, List.mem_cons, List.not_mem_nil, or_false] at hpair
    rcases hpair with rfl | rfl <;> rfl
  exact hall _ h

/-- Neither a digit nor a mark of an escape is a space or ends a line. -/
lemma ne_blank_of_hexValue? {c : Char} (h : (hexValue? c).isSome = true) :
    isSpace c = false ∧ c ≠ '\n' ∧ c ≠ '\r' := by
  refine ⟨?_, ?_, ?_⟩
  · rw [Bool.eq_false_iff]
    intro hspace
    have hcases : c = ' ' ∨ c = '\t' := by simpa [isSpace] using hspace
    rcases hcases with rfl | rfl <;> exact absurd h (by decide)
  · rintro rfl
    exact absurd h (by decide)
  · rintro rfl
    exact absurd h (by decide)

/-! ## Machines -/

section scan

variable {σ : Type} {step : σ → Char → Step σ} {atEnd : σ → Option (List Char)} {state next : σ}
  {chars : List Char}

/-- A machine that goes on puts the characters that it yields before those that it still finds. -/
lemma scan_emit {c : Char} (hc : c ≠ '\r') (hstep : step state c = .emit chars next)
    (rest : List Char) :
    scan step atEnd state (c :: rest) =
      (scan step atEnd next rest).map fun (string, rest) => (chars ++ string, rest) := by
  rw [scan]
  · rw [hstep]
  · rintro - hreturn
    exact absurd hreturn hc

/-- A machine takes the two characters of a line end as one. -/
lemma scan_emit_return (hstep : step state '\n' = .emit chars next) (rest : List Char) :
    scan step atEnd state ('\r' :: '\n' :: rest) =
      (scan step atEnd next rest).map fun (string, rest) => (chars ++ string, rest) := by
  rw [scan, hstep]

/-- A machine that closes a string stops behind the character. -/
lemma scan_close {c : Char} (hc : c ≠ '\r') (hstep : step state c = .close chars)
    (rest : List Char) : scan step atEnd state (c :: rest) = some (chars, rest) := by
  rw [scan]
  · rw [hstep]
  · rintro - hreturn
    exact absurd hreturn hc

end scan

/-- The marks of strings: quotation marks, with escapes between them, and apostrophes, without. -/
inductive Mark where
  | basic
  | literal
  deriving DecidableEq

/-- The character of a mark. -/
def Mark.char : Mark → Char
  | basic => '"'
  | literal => '\''

/-- Whether there are escapes between marks. -/
def Mark.escapes : Mark → Bool
  | basic => true
  | literal => false

/-- What may stand for a text between marks, in one line or in a long string. -/
inductive Body (mark : Mark) (long : Bool) : List Char → List Char → Prop where
  | nil : Body mark long [] []
  /-- A character that stands for itself. -/
  | plain {c : Char} {written text : List Char} (hplain : isPlain c = true)
      (hmark : c ≠ mark.char) (hescape : mark.escapes = true → c ≠ '\\')
      (rest : Body mark long written text) : Body mark long (c :: written) (c :: text)
  /-- A line end in a long string. -/
  | newline {written text : List Char} (hlong : long = true) (rest : Body mark long written text) :
      Body mark long ('\n' :: written) ('\n' :: text)
  /-- A line end of two characters in a long string; it stands for a newline alone. -/
  | lineEnd {written text : List Char} (hlong : long = true) (rest : Body mark long written text) :
      Body mark long ('\r' :: '\n' :: written) ('\n' :: text)
  /-- An escape. -/
  | escape {sequence : List Char} {c : Char} {written text : List Char}
      (hescapes : mark.escapes = true) (hsequence : Escape sequence c)
      (rest : Body mark long written text) :
      Body mark long ('\\' :: (sequence ++ written)) (c :: text)

/-- A machine treats the characters of bodies rightly; `embed` says where it stands in an escape. -/
structure ReadsBody {σ : Type} (mark : Mark) (long : Bool) (step : σ → Char → Step σ)
    (embed : EscapeState → σ) : Prop where
  /-- Other characters than marks and backslashes stand for themselves. -/
  plain : ∀ c, isPlain c = true → c ≠ mark.char → (mark.escapes = true → c ≠ '\\') →
    step (embed .plain) c = .emit [c] (embed .plain)
  /-- Line ends may stand in long strings. -/
  newline : long = true → step (embed .plain) '\n' = .emit ['\n'] (embed .plain)
  /-- A backslash begins an escape. -/
  backslash : mark.escapes = true → step (embed .plain) '\\' = .emit [] (embed .escaped)
  /-- In an escape the machine goes on like the one for escapes. -/
  escape : mark.escapes = true → ∀ {state c chars next}, escapeStep state c = .emit chars next →
    state ≠ .plain → isSpace c = false → c ≠ '\n' →
      step (embed state) c = .emit chars (embed next)

namespace ReadsBody

variable {σ : Type} {mark : Mark} {long : Bool} {step : σ → Char → Step σ}
  {embed : EscapeState → σ} {atEnd : σ → Option (List Char)}

/-- The last digits of a code point are read, and stand for its character. -/
lemma scan_digits (h : ReadsBody mark long step embed) (hescapes : mark.escapes = true) {c : Char}
    {digits : List Char} {count value : Nat} (hlength : digits.length = count + 1)
    (hdigits : ∀ digit ∈ digits, (hexValue? digit).isSome = true)
    (hcode :
      digits.foldl (fun value digit => 16 * value + (hexValue? digit).getD 0) value = c.toNat)
    (rest : List Char) :
    scan step atEnd (embed (.digits count value)) (digits ++ rest) =
      (scan step atEnd (embed .plain) rest).map fun (string, rest) => (c :: string, rest) := by
  induction digits generalizing count value with
  | nil => cases hlength
  | cons digit digits ih =>
      obtain ⟨hdigit, hothers⟩ := List.forall_mem_cons.mp hdigits
      obtain ⟨found, hfound⟩ := Option.isSome_iff_exists.mp hdigit
      obtain ⟨hspace, hnewline, hreturn⟩ := ne_blank_of_hexValue? hdigit
      rw [List.foldl_cons, hfound, Option.getD_some] at hcode
      cases count with
      | zero =>
          obtain rfl : digits = [] := by simpa using hlength
          have hstep : escapeStep (.digits 0 value) digit = .emit [c] .plain := by
            have hchar : scalar? (16 * value + found) = some c := by
              rw [← scalar?_toNat c, ← hcode]
              rfl
            simp only [escapeStep, hfound, hchar]
          exact scan_emit hreturn (h.escape hescapes hstep nofun hspace hnewline) rest
      | succ count =>
          have hstep : escapeStep (.digits (count + 1) value) digit =
              .emit [] (.digits count (16 * value + found)) := by
            simp only [escapeStep, hfound]
          have hothers := ih (by simpa using hlength) hothers hcode
          rw [List.cons_append,
            scan_emit hreturn (h.escape hescapes hstep nofun hspace hnewline), hothers,
            Option.map_map]
          rfl

/-- **An escape** is read, and stands for its character. -/
lemma scan_escape (h : ReadsBody mark long step embed) (hescapes : mark.escapes = true)
    {sequence : List Char} {c : Char} (hsequence : Escape sequence c) (rest : List Char) :
    scan step atEnd (embed .escaped) (sequence ++ rest) =
      (scan step atEnd (embed .plain) rest).map fun (string, rest) => (c :: string, rest) := by
  cases hsequence with
  | @short mark _ hshort =>
      have hmark : isSpace mark = false ∧ mark ≠ '\n' ∧ mark ≠ '\r' := by
        have hall : ∀ pair ∈ shortEscapes,
            isSpace pair.1 = false ∧ pair.1 ≠ '\n' ∧ pair.1 ≠ '\r' := by decide
        exact hall _ hshort
      exact scan_emit hmark.2.2
        (h.escape hescapes (escapeStep_short hshort) nofun hmark.1 hmark.2.1) rest
  | @code mark digits _ hcode hdigits hvalue =>
      have hmark : isSpace mark = false ∧ mark ≠ '\n' ∧ mark ≠ '\r' ∧ digits.length ≠ 0 := by
        have hall : ∀ pair ∈ codeMarks,
            isSpace pair.1 = false ∧ pair.1 ≠ '\n' ∧ pair.1 ≠ '\r' ∧ pair.2 ≠ 0 := by decide
        exact hall _ hcode
      obtain ⟨count, hcount⟩ := Nat.exists_eq_succ_of_ne_zero hmark.2.2.2
      rw [hcount] at hcode
      have hstep := h.escape hescapes (escapeStep_code hcode) nofun hmark.1 hmark.2.1
      rw [List.cons_append, scan_emit hmark.2.2.1 hstep,
        h.scan_digits hescapes hcount hdigits hvalue, Option.map_map]
      rfl

/-- **A body** is read, and stands for its text. -/
lemma scan_body (h : ReadsBody mark long step embed) {written text : List Char}
    (hbody : Body mark long written text) (rest : List Char) :
    scan step atEnd (embed .plain) (written ++ rest) =
      (scan step atEnd (embed .plain) rest).map fun (string, rest) => (text ++ string, rest) := by
  induction hbody with
  | nil => simp
  | plain hplain hmark hescape _ ih =>
      have hreturn : ∀ c, isPlain c = true → c ≠ '\r' := by
        rintro c hc rfl
        exact absurd hc (by decide)
      rw [List.cons_append, scan_emit (hreturn _ hplain) (h.plain _ hplain hmark hescape), ih,
        Option.map_map]
      rfl
  | newline hlong _ ih =>
      rw [List.cons_append, scan_emit (by decide) (h.newline hlong), ih, Option.map_map]
      rfl
  | lineEnd hlong _ ih =>
      rw [List.cons_append, List.cons_append, scan_emit_return (h.newline hlong), ih,
        Option.map_map]
      rfl
  | escape hescapes hsequence _ ih =>
      rw [List.cons_append, List.append_assoc, scan_emit (by decide) (h.backslash hescapes),
        h.scan_escape hescapes hsequence, ih, Option.map_map, Option.map_map]
      rfl

/-- A body is read up to what closes the string. -/
lemma scan_body_closed (h : ReadsBody mark long step embed) {written text rest after : List Char}
    (hbody : Body mark long written text)
    (hrest : scan step atEnd (embed .plain) rest = some ([], after)) :
    scan step atEnd (embed .plain) (written ++ rest) = some (text, after) := by
  rw [h.scan_body hbody, hrest]
  simp

end ReadsBody

/-- The machine for basic strings reads their bodies. -/
lemma readsBody_basicStep : ReadsBody .basic false basicStep id where
  plain c hplain hmark hescape := by
    have hmark : c ≠ '"' := hmark
    simp [basicStep, hplain, hmark, hescape rfl]
  newline := nofun
  backslash _ := rfl
  escape _ {state _ _ _} hstep hstate _ _ := by
    cases state with
    | plain => exact absurd rfl hstate
    | escaped => exact hstep
    | digits left value => exact hstep

/-- The machine for literal strings reads their bodies. -/
lemma readsBody_literalStep : ReadsBody .literal false literalStep fun _ => () where
  plain c hplain hmark _ := by
    have hmark : c ≠ '\'' := hmark
    simp [literalStep, hplain, hmark]
  newline := nofun
  backslash := nofun
  escape := nofun

/-- Where the machine for long strings stands in an escape. -/
def LongState.ofEscape : EscapeState → LongState
  | .plain => .marks 0
  | state => .escape state

/-- The machines for long strings read their bodies. -/
lemma readsBody_longStep (mark : Mark) :
    ReadsBody mark true (longStep mark.char mark.escapes) LongState.ofEscape where
  plain c hplain hmark hescape := by
    have hbackslash : (mark.escapes && decide (c = '\\')) = false := by
      cases hescapes : mark.escapes with
      | false => rfl
      | true => simpa using hescape hescapes
    simp [LongState.ofEscape, longStep, longPlain, hmark, hbackslash, hplain]
  newline _ := by cases mark <;> rfl
  backslash hescapes := by
    cases mark with
    | basic => rfl
    | literal => cases hescapes
  escape _ {state c chars next} hstep hstate hspace hnewline := by
    have hnext : longStep.inEscape (.emit chars next) = .emit chars (LongState.ofEscape next) := by
      cases next <;> rfl
    cases state with
    | plain => exact absurd rfl hstate
    | escaped => simp only [LongState.ofEscape, longStep, hspace, hnewline, hstep, hnext,
        Bool.false_eq_true, if_false]
    | digits left value => simp only [LongState.ofEscape, longStep, hstep, hnext]

/-! ## Literals -/

/-- A string that stands for a text. -/
inductive Literal : List Char → List Char → Prop where
  /-- A string of one line. -/
  | line {mark : Mark} {written text : List Char} (body : Body mark false written text) :
      Literal (mark.char :: (written ++ [mark.char])) text
  /-- A long string; a line end right behind its opening marks does not count. -/
  | long {mark : Mark} {opening written text : List Char}
      (hopening : opening = ['\n'] ∨ opening = ['\r', '\n'] ∨
        opening = [] ∧ ∀ c ∈ written.head?, isPlain c = true)
      (body : Body mark true written text) :
      Literal (List.replicate 3 mark.char ++ (opening ++ (written ++ List.replicate 3 mark.char)))
        text

/-- A string of one line is read up to its closing mark. -/
lemma lineString?_eq {mark : Mark} {written text : List Char} (h : Body mark false written text)
    (rest : List Char) :
    lineString? (mark.char :: (written ++ mark.char :: rest)) = some (text, rest) := by
  cases mark with
  | basic => exact readsBody_basicStep.scan_body_closed h (scan_close (by decide) rfl rest)
  | literal => exact readsBody_literalStep.scan_body_closed h (scan_close (by decide) rfl rest)

/-- The three marks that close a long string are read, unless another one follows. -/
lemma scan_closing (mark : Mark) {rest : List Char} (hrest : rest.head? ≠ some mark.char) :
    scan (longStep mark.char mark.escapes) (longEnd mark.char) (.marks 0)
      (List.replicate 3 mark.char ++ rest) = some ([], rest) := by
  have hreturn : mark.char ≠ '\r' := by cases mark <;> decide
  have hmark : ∀ count, count < 3 → longStep mark.char mark.escapes (.marks count) mark.char =
      .emit [] (.marks (count + 1)) := by
    intro count hcount
    rw [longStep, if_pos rfl, if_neg (by omega)]
  have hclose : ∀ c, c ≠ mark.char →
      longStep mark.char mark.escapes (.marks 3) c = .closeBefore [] := by
    intro c hc
    rw [longStep, if_neg hc]
    rfl
  have hend : scan (longStep mark.char mark.escapes) (longEnd mark.char) (.marks 3) rest =
      some ([], rest) := by
    have hnewline : '\n' ≠ mark.char := by cases mark <;> decide
    match rest with
    | [] => rfl
    | c :: rest =>
        have hc : c ≠ mark.char := fun heq => hrest (congrArg some heq)
        rw [scan.eq_def]
        split
        · next heq => cases heq
        · next heq =>
          rw [hclose _ hnewline, heq]
        · next heq =>
          obtain ⟨rfl, rfl⟩ := List.cons.inj heq
          rw [hclose _ hc]
  have hmarks : List.replicate 3 mark.char ++ rest = mark.char :: mark.char :: mark.char :: rest :=
    rfl
  rw [hmarks, scan_emit hreturn (hmark 0 (by decide)), scan_emit hreturn (hmark 1 (by decide)),
    scan_emit hreturn (hmark 2 (by decide)), hend]
  rfl

/-- A text that does not begin with a line end is the whole body of its long string. -/
lemma longBody_eq_self {text : List Char} (h : ∀ c ∈ text.head?, isPlain c = true) :
    longBody text = text := by
  have hnewline : newline? text = none := by
    rw [newline?.eq_def]
    split
    · exact absurd (h '\n' rfl) (by decide)
    · exact absurd (h '\r' rfl) (by decide)
    · rfl
  rw [longBody, hnewline, Option.getD_none]

/-- A body in one line and its closing mark are not two marks, unless a further mark follows. -/
lemma Body.append_ne {mark : Mark} {written text rest : List Char}
    (h : Body mark false written text) (hrest : rest.head? ≠ some mark.char) (more : List Char) :
    written ++ mark.char :: rest ≠ mark.char :: mark.char :: more := by
  intro heq
  cases h with
  | nil =>
      obtain ⟨-, rfl⟩ := List.cons.inj heq
      exact hrest rfl
  | plain _ hmark _ _ => exact hmark (List.cons.inj heq).1
  | newline hlong _ => cases hlong
  | lineEnd hlong _ => cases hlong
  | escape hescapes _ _ =>
      cases mark with
      | basic => exact absurd (List.cons.inj heq).1 (by decide)
      | literal => cases hescapes

/-- **Reading a literal** gives its text, unless a further mark follows. -/
lemma Literal.string?_eq {written text rest : List Char} (h : Literal written text)
    (hrest : ∀ mark : Mark, rest.head? ≠ some mark.char) :
    string? (written ++ rest) = some (text, rest) := by
  cases h with
  | @line mark written _ body =>
      rw [List.cons_append, List.append_assoc, List.singleton_append, ← lineString?_eq body rest]
      have hline := body.append_ne (hrest mark)
      cases mark with
      | basic =>
          rw [string?]
          · intro more heq
            exact hline more (List.cons.inj heq).2
          · intro more heq
            cases heq
      | literal =>
          rw [string?]
          · intro more heq
            cases heq
          · intro more heq
            exact hline more (List.cons.inj heq).2
  | @long mark opening written _ hopening body =>
      have hbody : longBody (opening ++ (written ++ (List.replicate 3 mark.char ++ rest))) =
          written ++ (List.replicate 3 mark.char ++ rest) := by
        rcases hopening with rfl | rfl | ⟨rfl, hplain⟩
        · rfl
        · rfl
        · refine longBody_eq_self fun c hc => ?_
          rw [List.nil_append, List.head?_append] at hc
          cases hhead : written.head? with
          | none =>
              rw [hhead] at hc
              obtain rfl : mark.char = c := Option.some.inj hc
              cases mark <;> decide
          | some first =>
              rw [hhead] at hc
              obtain rfl : first = c := Option.some.inj hc
              exact hplain first hhead
      have hlong := (readsBody_longStep mark).scan_body_closed body (scan_closing mark (hrest mark))
      rw [← hbody] at hlong
      simp only [List.append_assoc]
      cases mark <;> exact hlong

/-! ## Canonical literals -/

/-- A character as it stands in a canonical literal: by its mark if it has one, else as it is, or by
its code point if it may not stand there. -/
def canonicalChar (c : Char) : List Char :=
  match shortEscapes.find? (·.2 = c) with
  | some (mark, _) => ['\\', mark]
  | none =>
    if isPlain c then [c]
    else ['\\', 'u', '0', '0', Nat.digitChar (c.toNat / 16), Nat.digitChar (c.toNat % 16)]

/-- The canonical literal of a text. -/
def canonical (text : List Char) : List Char :=
  '"' :: (text.flatMap canonicalChar ++ ['"'])

/-- The digits of numbers below sixteen are read as these numbers. -/
lemma hexValue?_digitChar : ∀ number < 16, hexValue? (Nat.digitChar number) = some number := by
  decide

/-- The code point of a character that may not stand for itself has two digits. -/
lemma escape_of_isPlain_eq_false {c : Char} (h : isPlain c = false) :
    Escape ['u', '0', '0', Nat.digitChar (c.toNat / 16), Nat.digitChar (c.toNat % 16)] c := by
  have hsmall : c.toNat < 128 := by
    simp only [isPlain, Bool.or_eq_false_iff, Bool.and_eq_false_iff, decide_eq_false_iff_not] at h
    omega
  have hzero : hexValue? '0' = some 0 := rfl
  have hhigh := hexValue?_digitChar (c.toNat / 16) (by omega)
  have hlow := hexValue?_digitChar (c.toNat % 16) (by omega)
  refine .code (by simp [codeMarks]) ?_ ?_
  · simp [hzero, hhigh, hlow]
  · simp only [ofDigits, List.foldl_cons, List.foldl_nil, hzero, hhigh, hlow, Option.getD_some]
    omega

/-- **Every text** has a literal of one line. -/
lemma literal_canonical (text : List Char) : Literal (canonical text) text := by
  have hbody : Body .basic false (text.flatMap canonicalChar) text := by
    induction text with
    | nil => exact .nil
    | cons c text ih =>
        rw [List.flatMap_cons, canonicalChar]
        split
        · next mark found hfind =>
          have hmem := List.mem_of_find?_eq_some hfind
          have hfound : found = c := by simpa using List.find?_some hfind
          subst hfound
          have hescape : Body .basic false ('\\' :: ([mark] ++ _)) (found :: text) :=
            .escape rfl (.short hmem) ih
          exact hescape
        · next hfind =>
          have hother : ∀ pair ∈ shortEscapes, pair.2 ≠ c := by simpa using hfind
          split
          · next hplain =>
            refine .plain hplain ?_ (fun _ => ?_) ih
            · exact fun heq => hother ('"', '"') (by simp [shortEscapes]) heq.symm
            · exact fun heq => hother ('\\', '\\') (by simp [shortEscapes]) heq.symm
          · next hplain =>
            exact .escape rfl (escape_of_isPlain_eq_false (Bool.eq_false_iff.mpr hplain)) ih
  exact .line hbody

end Conformance.Toml
