import Conformance.Json
import Conformance.Proofs.Outline.Lines
import Mathlib.Tactic.Lemma
import Std.Data.String.ToInt

/-!
# Reading spread text back

A reader for the spread text of JSON values, and the proof that it gives the value back. The reader
goes through the text once, a character at a time, and keeps the arrays and objects that are not yet
closed. It is a reader of texts that were written by `Json.spread` and does not check them: blanks,
commas and colons between values are passed over, wherever they stand.

* **State** (`Reader`): what the last characters belong to, and the open arrays and objects, each
  with what it has so far.
* **Steps** (`Reader.step`, `Reader.run`): one character changes the state, and a text does so
  character by character.
* **Strings and words** (`run_quoted`, `run_word`): a string ends at its quotation mark, whatever is
  escaped in it; a number or `null` ends at the first character that is in no word.
* **Values** (`run_spread`): the text of a value hands the value to the innermost array or object
  that is open, and leaves what was open before.
* **Main statement** (`read?_renderSpread`): reading the spread text of a value gives the value.
-/

namespace Conformance.Json

/-! ## State -/

/-- An array or an object that is not yet closed. -/
inductive Frame where
  /-- An array with its elements so far, the last one first. -/
  | array (elements : List Json)
  /-- An object with its fields so far, the last one first, and the name of a field whose value is
  still to come. -/
  | object (fields : List (String × Json)) (pending : Option String)

/-- What the last characters belong to. -/
inductive Mode where
  /-- To nothing that goes on. -/
  | between
  /-- To a number or to `null`, with its characters, the last one first. -/
  | word (chars : List Char)
  /-- To a string, with its characters, the last one first. -/
  | text (chars : List Char)
  /-- To an escape in a string, just begun. -/
  | escape (chars : List Char)
  /-- To an escape in hexadecimal, with the number of digits after the next one and the value of
  those before it. -/
  | code (chars : List Char) (missing value : Nat)

/-- The state of the reader after a part of a text. -/
structure Reader where
  /-- What the last characters belong to. -/
  mode : Mode
  /-- The open arrays and objects, the innermost one first. -/
  frames : List Frame

/-! ## Steps -/

/-- The open arrays and objects after a value has come to the innermost one. -/
def supply (value : Json) : List Frame → Option (List Frame)
  | .array elements :: frames => some (.array (value :: elements) :: frames)
  | .object fields (some name) :: frames => some (.object ((name, value) :: fields) none :: frames)
  | .object fields none :: frames =>
    match value with
    | text name => some (.object fields (some name) :: frames)
    | _ => none
  | [] => none

/-- Whether a character may stand in a number or in `null`. -/
def isWordChar (c : Char) : Bool :=
  c == '-' || c.isAlphanum

/-- The value that a word stands for. -/
def ofWord? (word : List Char) : Option Json :=
  if word = "null".toList then some null
  else (String.ofList word).toInt?.map number

/-- The character that a letter stands for behind a backslash. -/
def unescaped? : Char → Option Char
  | '"' => some '"'
  | '\\' => some '\\'
  | 'b' => some '\x08'
  | 't' => some '\t'
  | 'n' => some '\n'
  | 'f' => some '\x0c'
  | 'r' => some '\r'
  | _ => none

/-- The value of a hexadecimal digit in lower case. -/
def hexValue (digit : Char) : Nat :=
  if digit.isDigit then digit.toNat - '0'.toNat else digit.toNat - 'a'.toNat + 10

namespace Reader

/-- The state after a value. -/
def supplied (value : Json) (frames : List Frame) : Option Reader :=
  (supply value frames).map (⟨.between, ·⟩)

/-- The state after a character that belongs to nothing before it. -/
def enter (frames : List Frame) (c : Char) : Option Reader :=
  if isWordChar c then some ⟨.word [c], frames⟩
  else
    match c, frames with
    | '"', frames => some ⟨.text [], frames⟩
    | '[', frames => some ⟨.between, .array [] :: frames⟩
    | '{', frames => some ⟨.between, .object [] none :: frames⟩
    | ']', .array elements :: frames => supplied (.array elements.reverse) frames
    | '}', .object fields none :: frames => supplied (.object fields.reverse) frames
    | _, frames => some ⟨.between, frames⟩

/-- The state after one more character. -/
def step (reader : Reader) (c : Char) : Option Reader :=
  match reader.mode with
  | .between => enter reader.frames c
  | .word chars =>
    if isWordChar c then some ⟨.word (c :: chars), reader.frames⟩
    else do
      let value ← ofWord? chars.reverse
      let frames ← supply value reader.frames
      enter frames c
  | .text chars =>
    if c = '"' then supplied (.text (String.ofList chars.reverse)) reader.frames
    else if c = '\\' then some ⟨.escape chars, reader.frames⟩
    else some ⟨.text (c :: chars), reader.frames⟩
  | .escape chars =>
    if c = 'u' then some ⟨.code chars 3 0, reader.frames⟩
    else do
      let char ← unescaped? c
      return ⟨.text (char :: chars), reader.frames⟩
  | .code chars missing value =>
    let value := 16 * value + hexValue c
    match missing with
    | 0 => some ⟨.text (Char.ofNat value :: chars), reader.frames⟩
    | missing + 1 => some ⟨.code chars missing value, reader.frames⟩

/-- The state after a text. -/
def run (reader : Reader) (text : List Char) : Option Reader :=
  text.foldlM step reader

/-- A text is read character by character. -/
lemma run_cons (reader : Reader) (c : Char) (rest : List Char) :
    reader.run (c :: rest) = (reader.step c).bind (·.run rest) :=
  List.foldlM_cons

/-- Blanks and separators between values change nothing. -/
lemma run_between_of_mem {c : Char} (h : c ∈ [' ', '\n', ',', ':']) (frames : List Frame)
    (rest : List Char) : run ⟨.between, frames⟩ (c :: rest) = run ⟨.between, frames⟩ rest := by
  have henter : enter frames c = some ⟨.between, frames⟩ := by
    simp only [List.mem_cons, List.not_mem_nil, or_false] at h
    rcases h with rfl | rfl | rfl | rfl <;> rfl
  rw [run_cons, step, henter, Option.bind_some]

/-- The beginning of a line changes nothing. -/
lemma run_lineAt (level : Nat) (frames : List Frame) (rest : List Char) :
    run ⟨.between, frames⟩ (lineAt level ++ rest) = run ⟨.between, frames⟩ rest := by
  have hblanks (count : Nat) :
      run ⟨.between, frames⟩ (List.replicate count ' ' ++ rest) = run ⟨.between, frames⟩ rest := by
    induction count with
    | zero => rfl
    | succ count ih =>
        rw [List.replicate_succ, List.cons_append, run_between_of_mem (by decide), ih]
  rw [lineAt, List.cons_append, run_between_of_mem (by decide), hblanks]

/-! ## Strings -/

/-- A hexadecimal digit is read as its value. -/
lemma hexValue_hexDigit {digit : Nat} (h : digit < 16) : hexValue (hexDigit digit) = digit := by
  decide +revert

/-- Four hexadecimal digits are read as the character that they number. -/
lemma run_code {c : Char} (h : c.toNat < 0x20) (chars : List Char) (frames : List Frame)
    (rest : List Char) :
    run ⟨.code chars 3 0, frames⟩
      ('0' :: '0' :: hexDigit (c.toNat / 16) :: hexDigit (c.toNat % 16) :: rest) =
        run ⟨.text (c :: chars), frames⟩ rest := by
  have hvalue : Char.ofNat (16 * (16 * (16 * (16 * 0 + hexValue '0') + hexValue '0') +
      hexValue (hexDigit (c.toNat / 16))) + hexValue (hexDigit (c.toNat % 16))) = c := by
    rw [hexValue_hexDigit (by omega), hexValue_hexDigit (by omega)]
    have hzero : hexValue '0' = 0 := rfl
    have hnumber : 16 * (16 * (16 * (16 * 0 + 0) + 0) + c.toNat / 16) + c.toNat % 16 = c.toNat := by
      omega
    rw [hzero, hnumber, Char.ofNat_toNat]
  simp only [run_cons, step, Option.bind_some, hvalue]

/-- A character of a string is read back, escaped or not. -/
lemma run_escaped (c : Char) (chars : List Char) (frames : List Frame) (rest : List Char) :
    run ⟨.text chars, frames⟩ (escaped c ++ rest) = run ⟨.text (c :: chars), frames⟩ rest := by
  by_cases hshort : c ∈ ['"', '\\', '\x08', '\t', '\n', '\x0c', '\r']
  · simp only [List.mem_cons, List.not_mem_nil, or_false] at hshort
    rcases hshort with rfl | rfl | rfl | rfl | rfl | rfl | rfl <;> rfl
  · simp only [List.mem_cons, List.not_mem_nil, or_false, not_or] at hshort
    obtain ⟨hquote, hbackslash, hbackspace, htab, hnewline, hfeed, hreturn⟩ := hshort
    by_cases hcode : c.toNat < 0x20
    · have hescaped : escaped c = '\\' :: 'u' :: '0' :: '0' ::
          [hexDigit (c.toNat / 16), hexDigit (c.toNat % 16)] := by
        simp only [escaped, if_neg, if_pos, *, not_false_eq_true]
      rw [hescaped]
      exact run_code hcode chars frames rest
    · have hescaped : escaped c = [c] := by
        simp only [escaped, if_neg, *, not_false_eq_true]
      rw [hescaped, List.singleton_append, run_cons, step]
      simp only [if_neg hquote, if_neg hbackslash, Option.bind_some]

/-- **A string** ends at its quotation mark, whatever its characters are. -/
lemma run_quoted (value : String) (frames : List Frame) (rest : List Char) :
    run ⟨.between, frames⟩ (quoted value ++ rest) =
      (supplied (.text value) frames).bind (·.run rest) := by
  have hchars (text chars : List Char) :
      run ⟨.text chars, frames⟩ (text.flatMap escaped ++ '"' :: rest) =
        (supplied (.text (String.ofList (chars.reverse ++ text))) frames).bind (·.run rest) := by
    induction text generalizing chars with
    | nil =>
        rw [List.append_nil]
        exact run_cons ..
    | cons c text ih =>
        rw [List.flatMap_cons, List.append_assoc, run_escaped, ih, List.reverse_cons,
          List.append_assoc, List.singleton_append]
  have hbegin : run ⟨.between, frames⟩ (quoted value ++ rest) =
      run ⟨.text [], frames⟩ (value.toList.flatMap escaped ++ '"' :: rest) := by
    rw [quoted, List.cons_append, List.append_assoc, List.singleton_append]
    exact run_cons ..
  rw [hbegin, hchars, List.reverse_nil, List.nil_append, String.ofList_toList]

/-! ## Words -/

/-- A text goes on with a character that is in no word. -/
def EndsWord (rest : List Char) : Prop :=
  rest.head?.map isWordChar = some false

/-- **A word** goes on up to the first character that is in no word. -/
lemma run_word {word : List Char} (hword : ∀ c ∈ word, isWordChar c = true) (hne : word ≠ [])
    {value : Json} (hvalue : ofWord? word = some value) (frames : List Frame) {rest : List Char}
    (hrest : EndsWord rest) :
    run ⟨.between, frames⟩ (word ++ rest) = (supplied value frames).bind (·.run rest) := by
  obtain ⟨last, tail, rfl⟩ : ∃ last tail, rest = last :: tail := by
    cases rest with
    | nil => cases hrest
    | cons last tail => exact ⟨last, tail, rfl⟩
  have hlast : isWordChar last = false := Option.some.inj hrest
  have hchars (text chars : List Char) (htext : ∀ c ∈ text, isWordChar c = true)
      (hvalue : ofWord? (chars.reverse ++ text) = some value) :
      run ⟨.word chars, frames⟩ (text ++ last :: tail) =
        (supplied value frames).bind (·.run (last :: tail)) := by
    induction text generalizing chars with
    | nil =>
        rw [List.append_nil] at hvalue
        have hstep : step ⟨.word chars, frames⟩ last =
            (supply value frames).bind (enter · last) := by
          simp only [step, hlast, hvalue, Bool.false_eq_true, if_false]
          rfl
        -- The word is over, and its last character is yet to be read, behind the value.
        rw [List.nil_append, run_cons, hstep, supplied, Option.bind_assoc, Option.bind_map]
        exact Option.bind_congr fun after _ => (run_cons ⟨.between, after⟩ last tail).symm
    | cons c text ih =>
        obtain ⟨hc, htext⟩ := List.forall_mem_cons.mp htext
        rw [List.cons_append, run_cons, step]
        dsimp only
        rw [if_pos hc, Option.bind_some]
        apply ih (c :: chars) htext
        rwa [List.reverse_cons, List.append_assoc, List.singleton_append]
  cases word with
  | nil => exact absurd rfl hne
  | cons first word =>
      obtain ⟨hfirst, hword⟩ := List.forall_mem_cons.mp hword
      have hstep : step ⟨.between, frames⟩ first = some ⟨.word [first], frames⟩ := by
        unfold step enter
        exact if_pos hfirst
      rw [List.cons_append, run_cons, hstep, Option.bind_some]
      exact hchars word [first] hword hvalue

/-- A number is a word that stands for it. -/
lemma run_decimal (value : Int) (frames : List Frame) {rest : List Char} (hrest : EndsWord rest) :
    run ⟨.between, frames⟩ (decimal value ++ rest) =
      (supplied (.number value) frames).bind (·.run rest) := by
  have hread : (String.ofList (decimal value)).toInt? = some value := by
    rw [decimal, String.ofList_toList]
    exact Int.toInt?_repr value
  have hchar {c : Char} (hmem : c ∈ decimal value) : c = '-' ∨ c.isDigit = true :=
    eq_dash_or_isDigit_of_mem_repr hmem
  have hnull : decimal value ≠ "null".toList := by
    intro heq
    have hletter : 'n' ∈ decimal value := by
      rw [heq]
      decide
    exact absurd (hchar hletter) (by decide)
  apply run_word
  · intro c hmem
    rcases hchar hmem with rfl | hdigit
    · rfl
    · rw [isWordChar, Char.isAlphanum, hdigit, Bool.or_true, Bool.or_true]
  · intro hnil
    obtain ⟨last, -, hlast⟩ := getLast?_repr value
    have hrepr : value.repr.toList = [] := hnil
    rw [hrepr] at hlast
    cases hlast
  · rw [ofWord?, if_neg hnull, hread, Option.map_some]
  · exact hrest

/-! ## Values

The induction follows the writer, with one case for each of its equations. What comes after a value
is part of every statement: a number is over only when the next character is seen, and the writer
puts a comma or a new line there.
-/

/-- A text that goes on with more elements goes on with a character that is in no word. -/
lemma EndsWord.spreadElements_append {rest : List Char} (h : EndsWord rest) (level : Nat)
    (elements : List Json) : EndsWord (spreadElements level elements ++ rest) := by
  cases elements with
  | nil => rwa [spreadElements, List.nil_append]
  | cons element elements =>
      rw [spreadElements]
      rfl

/-- A text that goes on with more fields goes on with a character that is in no word. -/
lemma EndsWord.spreadFields_append {rest : List Char} (h : EndsWord rest) (level : Nat)
    (fields : List (String × Json)) : EndsWord (spreadFields level fields ++ rest) := by
  cases fields with
  | nil => rwa [spreadFields, List.nil_append]
  | cons field fields =>
      rw [spreadFields]
      rfl

/-- A line begins with a character that is in no word. -/
lemma endsWord_lineAt_append (level : Nat) (rest : List Char) : EndsWord (lineAt level ++ rest) :=
  rfl

/-- A bracket closes the array that is open. -/
lemma run_closeArray (elements : List Json) (frames : List Frame) (rest : List Char) :
    run ⟨.between, .array elements :: frames⟩ (']' :: rest) =
      (supplied (.array elements.reverse) frames).bind (·.run rest) :=
  run_cons ..

/-- A brace closes the object that is open. -/
lemma run_closeObject (fields : List (String × Json)) (frames : List Frame) (rest : List Char) :
    run ⟨.between, .object fields none :: frames⟩ ('}' :: rest) =
      (supplied (.object fields.reverse) frames).bind (·.run rest) :=
  run_cons ..

/-- The name of a field is a string of the open object. -/
lemma run_name (name : String) (fields : List (String × Json)) (frames : List Frame)
    (rest : List Char) :
    run ⟨.between, .object fields none :: frames⟩ (quoted name ++ ':' :: ' ' :: rest) =
      run ⟨.between, .object fields (some name) :: frames⟩ rest := by
  rw [run_quoted]
  have hsupplied : supplied (.text name) (.object fields none :: frames) =
      some ⟨.between, .object fields (some name) :: frames⟩ := rfl
  rw [hsupplied, Option.bind_some, run_between_of_mem (by decide), run_between_of_mem (by decide)]

mutual

/-- **A value** comes to the innermost array or object that is open. -/
theorem run_spread (level : Nat) (frames : List Frame) (rest : List Char) (hrest : EndsWord rest) :
    (value : Json) → run ⟨.between, frames⟩ (value.spread level ++ rest) =
      (supplied value frames).bind (·.run rest)
  | .null => by
      have hword : ∀ c ∈ "null".toList, isWordChar c = true := List.all_eq_true.mp rfl
      rw [spread]
      exact run_word hword (by decide) rfl frames hrest
  | .number value => by
      rw [spread]
      exact run_decimal value frames hrest
  | .text value => by
      rw [spread]
      exact run_quoted value frames rest
  | .array [] => by
      rw [spread]
      exact run_closeArray [] frames rest
  | .array (element :: elements) => by
      have hopen (text : List Char) :
          run ⟨.between, frames⟩ ('[' :: text) = run ⟨.between, .array [] :: frames⟩ text :=
        run_cons ..
      have hclose := endsWord_lineAt_append level (']' :: rest)
      rw [spread]
      simp only [List.cons_append, List.append_assoc, List.nil_append]
      rw [hopen, run_lineAt, run_spread _ _ _ (hclose.spreadElements_append ..)]
      have hfirst : supplied element (.array [] :: frames) =
          some ⟨.between, .array [element] :: frames⟩ := rfl
      rw [hfirst, Option.bind_some, run_spreadElements _ _ _ _ hclose, run_lineAt, run_closeArray,
        List.reverse_append, List.reverse_reverse, List.reverse_singleton, List.singleton_append]
  | .object [] => by
      rw [spread]
      exact run_closeObject [] frames rest
  | .object ((name, value) :: fields) => by
      have hopen (text : List Char) :
          run ⟨.between, frames⟩ ('{' :: text) = run ⟨.between, .object [] none :: frames⟩ text :=
        run_cons ..
      have hclose := endsWord_lineAt_append level ('}' :: rest)
      rw [spread]
      simp only [List.cons_append, List.append_assoc, List.nil_append]
      rw [hopen, run_lineAt, run_name, run_spread _ _ _ (hclose.spreadFields_append ..)]
      have hfirst : supplied value (.object [] (some name) :: frames) =
          some ⟨.between, .object [(name, value)] none :: frames⟩ := rfl
      rw [hfirst, Option.bind_some, run_spreadFields _ _ _ _ hclose, run_lineAt, run_closeObject,
        List.reverse_append, List.reverse_reverse, List.reverse_singleton, List.singleton_append]

/-- The elements after the first come to their array. -/
theorem run_spreadElements (level : Nat) (done : List Json) (frames : List Frame) (rest : List Char)
    (hrest : EndsWord rest) :
    (elements : List Json) →
      run ⟨.between, .array done :: frames⟩ (spreadElements level elements ++ rest) =
        run ⟨.between, .array (elements.reverse ++ done) :: frames⟩ rest
  | [] => rfl
  | element :: elements => by
      rw [spreadElements]
      simp only [List.cons_append, List.append_assoc]
      rw [run_between_of_mem (by decide), run_lineAt,
        run_spread _ _ _ (hrest.spreadElements_append ..)]
      have hnext : supplied element (.array done :: frames) =
          some ⟨.between, .array (element :: done) :: frames⟩ := rfl
      rw [hnext, Option.bind_some, run_spreadElements _ _ _ _ hrest, List.reverse_cons,
        List.append_assoc, List.singleton_append]

/-- The fields after the first come to their object. -/
theorem run_spreadFields (level : Nat) (done : List (String × Json)) (frames : List Frame)
    (rest : List Char) (hrest : EndsWord rest) :
    (fields : List (String × Json)) →
      run ⟨.between, .object done none :: frames⟩ (spreadFields level fields ++ rest) =
        run ⟨.between, .object (fields.reverse ++ done) none :: frames⟩ rest
  | [] => rfl
  | (name, value) :: fields => by
      rw [spreadFields]
      simp only [List.cons_append, List.append_assoc]
      rw [run_between_of_mem (by decide), run_lineAt, run_name,
        run_spread _ _ _ (hrest.spreadFields_append ..)]
      have hnext : supplied value (.object done (some name) :: frames) =
          some ⟨.between, .object ((name, value) :: done) none :: frames⟩ := rfl
      rw [hnext, Option.bind_some, run_spreadFields _ _ _ _ hrest, List.reverse_cons,
        List.append_assoc, List.singleton_append]

end

end Reader

/-! ## Whole texts -/

/-- The value that a text is for. The text is read as the one element of an array, and a newline
after it ends its last word. -/
def read? (text : String) : Option Json :=
  match Reader.run ⟨.between, [.array []]⟩ (text.toList ++ ['\n']) with
  | some ⟨.between, [.array [value]]⟩ => some value
  | _ => none

/-- **Reading spread text** gives the value back. -/
theorem read?_renderSpread (value : Json) : read? value.renderSpread = some value := by
  have hend : Reader.EndsWord ['\n'] := rfl
  rw [read?, renderSpread, String.toList_ofList, Reader.run_spread _ _ _ hend]
  rfl

/-- A bracket or a comma in a string is no part of the array around it. -/
example : read? "[\n  \"],\\u001f\",\n  null\n]" = some (.array [.text "],\x1f", .null]) := by
  rfl

end Conformance.Json
