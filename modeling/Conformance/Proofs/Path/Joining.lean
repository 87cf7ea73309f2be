import Conformance.Path
import Mathlib.Tactic.Lemma

/-!
# Pieces of paths

What the pieces of a path are, in particular of the path that a name makes with the path of a
directory.

* **The last name** (`pieces_cases`): the last piece that is not empty, which is what the path
  names; only slashes come after it.
* **Names of files** (`IsFileName`): names that stand for something in the directory they are
  looked up in, rather than for the directory itself or the one around it.
* **Folders** (`folders`): the pieces of a path without the empty one that a slash at its end
  leaves. A joined name comes right after them (`pieces_join`), whether or not the path of the
  directory is empty or ends in a slash.
* **Texts** (`exists_join_eq`): joining puts one text before all relative paths.
-/

namespace Conformance

/-- A name that a file can have in a directory. -/
structure IsFileName (name : String) : Prop where
  /-- It is one piece of a path. -/
  slash_notMem : '/' ∉ name.toList
  /-- It does not stand for the directory by being empty. -/
  ne_empty : name ≠ ""
  /-- It does not stand for the directory by being a dot. -/
  ne_dot : name ≠ "."
  /-- It does not stand for the directory around. -/
  ne_dots : name ≠ ".."

namespace Path

/-! ## The last name -/

/-- Some texts are all empty, or there is a last one that is not. -/
lemma exists_last_ne_empty (texts : List String) :
    (∀ text ∈ texts, text = "") ∨
      ∃ outer name blanks, name ≠ "" ∧ (∀ blank ∈ blanks, blank = "") ∧
        texts = outer ++ name :: blanks := by
  induction texts with
  | nil => exact .inl nofun
  | cons text texts ih =>
      rcases ih with hblanks | ⟨outer, name, blanks, hname, hblanks, rfl⟩
      · by_cases htext : text = ""
        · exact .inl (List.forall_mem_cons.mpr ⟨htext, hblanks⟩)
        · exact .inr ⟨[], text, texts, htext, hblanks, rfl⟩
      · exact .inr ⟨text :: outer, name, blanks, hname, hblanks, rfl⟩

/-- The pieces of a path are all empty, or there is a last one that is not. -/
lemma pieces_cases (path : Path) :
    (∀ piece ∈ path.pieces, piece = "") ∨
      ∃ outer name blanks, name ≠ "" ∧ (∀ blank ∈ blanks, blank = "") ∧
        path.pieces = outer ++ name :: blanks :=
  exists_last_ne_empty path.pieces

/-! ## Joining -/

/-- A path made of one name has that name as its only piece. -/
lemma pieces_eq_singleton {name : String} (h : '/' ∉ name.toList) : pieces ⟨name⟩ = [name] := by
  rw [pieces, List.splitOn_eq_singleton h]
  simp

/-- A path with slashes falls apart at each of them. -/
lemma pieces_append_slash (before after : String) :
    pieces ⟨before ++ "/" ++ after⟩ = pieces ⟨before⟩ ++ pieces ⟨after⟩ := by
  have htext : (before ++ "/" ++ after).toList = before.toList ++ '/' :: after.toList := by simp
  simp only [pieces, htext, List.splitOn_append_cons_self, List.map_append]

/-- What comes after the last slash of a path is its last piece. -/
lemma pieces_append_slash_of_notMem (before : String) {name : String} (h : '/' ∉ name.toList) :
    pieces ⟨before ++ "/" ++ name⟩ = pieces ⟨before⟩ ++ [name] := by
  rw [pieces_append_slash, pieces_eq_singleton h]

/-- A text with a slash is cut at its last one. -/
lemma exists_eq_append_slash {text : String} (h : '/' ∈ text.toList) :
    ∃ before after : String, text = before ++ "/" ++ after ∧ '/' ∉ after.toList := by
  obtain ⟨after, before, hreverse, hafter⟩ :=
    List.eq_append_cons_of_mem (List.mem_reverse.mpr h)
  refine ⟨String.ofList before.reverse, String.ofList after.reverse, ?_, by simpa using hafter⟩
  rw [← String.toList_inj, ← List.reverse_inj, hreverse]
  simp

/-- The pieces of a path that are directories to what is joined to it. -/
def folders (path : Path) : List String :=
  if path.text.isEmpty || path.text.toList.getLast? = some '/' then path.pieces.dropLast
  else path.pieces

/-- A relative path. -/
lemma isAbsolute_eq_false {name : String} (h : '/' ∉ name.toList) :
    isAbsolute ⟨name⟩ = false := by
  unfold isAbsolute
  rw [decide_eq_false_iff_not]
  exact fun hhead => h (List.mem_of_mem_head? hhead)

/-- All relative paths are joined to the path of a directory behind the same text. -/
lemma exists_join_eq (dir : Path) :
    ∃ front : String, (front = dir.text ∨ front = dir.text ++ "/") ∧
      ∀ name, isAbsolute ⟨name⟩ = false → dir.join ⟨name⟩ = ⟨front ++ name⟩ := by
  by_cases hopen : (dir.text.isEmpty || dir.text.toList.getLast? = some '/') = true
  · exact ⟨dir.text, .inl rfl, fun name hname => by simp only [join, hname, hopen, if_true]; rfl⟩
  · exact ⟨dir.text ++ "/", .inr rfl, fun name hname => by simp only [join, hname, hopen]; rfl⟩

/-- Joining to the empty path changes nothing. -/
lemma empty_join (path : Path) : Path.join ⟨""⟩ path = path := by
  unfold join
  split
  · rfl
  · simp

/-- The pieces of a relative path come after the folders of the path it is joined to. -/
lemma pieces_join_of_relative (dir : Path) {name : String} (h : isAbsolute ⟨name⟩ = false) :
    (dir.join ⟨name⟩).pieces = dir.folders ++ pieces ⟨name⟩ := by
  rw [join, h, if_neg (by decide), folders]
  by_cases hempty : dir.text = ""
  · rw [if_pos (by simp [hempty]), if_pos (by simp [hempty])]
    have hfolders : dir.pieces.dropLast = [] := by
      rw [pieces, hempty]
      simp
    rw [hempty, String.empty_append, hfolders, List.nil_append]
  · by_cases hslash : dir.text.toList.getLast? = some '/'
    · rw [if_pos (by simp [hslash]), if_pos (by simp [hslash])]
      obtain ⟨before, hbefore⟩ := List.getLast?_eq_some_iff.mp hslash
      have htext : dir.text = String.ofList before ++ "/" := by
        rw [← String.ofList_toList (s := dir.text), hbefore, String.ofList_append]
      have hpieces : dir.pieces = pieces ⟨String.ofList before⟩ ++ [""] := by
        have hdir : dir = ⟨String.ofList before ++ "/" ++ ""⟩ := by
          rw [String.append_empty, ← htext]
        rw [hdir, pieces_append_slash]
        rfl
      rw [htext, pieces_append_slash, hpieces, List.dropLast_concat]
    · rw [if_neg (by simp [hempty, hslash]), if_neg (by simp [hempty, hslash])]
      rw [pieces_append_slash]

/-- A joined name comes after the folders of the path it is joined to. -/
lemma pieces_join (dir : Path) {name : String} (h : '/' ∉ name.toList) :
    (dir.join ⟨name⟩).pieces = dir.folders ++ [name] := by
  rw [pieces_join_of_relative dir (isAbsolute_eq_false h), pieces_eq_singleton h]

/-- A relative path joined to that of a directory is absolute where the path of the directory is. -/
lemma isAbsolute_join (dir : Path) {name : String} (h : isAbsolute ⟨name⟩ = false) :
    (dir.join ⟨name⟩).isAbsolute = dir.isAbsolute := by
  rw [join, h, if_neg (by decide)]
  by_cases hempty : dir.text = ""
  · rw [if_pos (by simp [hempty]), hempty, String.empty_append, h, isAbsolute, hempty]
    rfl
  · have hhead : ∀ rest : String, isAbsolute ⟨dir.text ++ rest⟩ = dir.isAbsolute := by
      intro rest
      unfold isAbsolute
      rw [String.toList_append, List.head?_append]
      cases hchars : dir.text.toList with
      | nil => exact absurd (String.toList_eq_nil_iff.mp hchars) hempty
      | cons first rest => rfl
    split
    · exact hhead name
    · rw [String.append_assoc]
      exact hhead _

end Path

end Conformance
