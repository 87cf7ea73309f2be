import Conformance.Proofs.Disk.Walk

/-!
# Files under the names of a directory

What it takes to write a file under a name joined to the path of a directory, and what is read there
afterwards.

* **Room** (`Room`): the directory can be entered and the name can be given to a file in it. Writing
  succeeds where there is room, and only there (`writeText_join_eq_ok_iff`); it changes one entry.
* **Refusals** (`writeText_join_eq_error_iff`): why a file cannot be written in a directory that can
  be entered. No other file of the directory has a part in it (`Room.writeText_put_eq_error_iff`).
* **Stored text** (`Stored`): a file in the directory holds a text. The text is read back
  (`Stored.readText_eq`), writing it again changes nothing (`Stored.writeText_eq`), and it stays
  through growth that leaves its entry alone (`Stored.of_grows`).
-/

namespace Conformance

namespace Disk

/-! ## Room for a file -/

/-- A name can be given to a file in the directory at a path, which is at a location. -/
structure Room (disk : Disk) (dir : Path) (here : Location) (name : String) : Prop where
  /-- The path of the file is one that a file can have. -/
  fault_eq : (dir.join ⟨name⟩).fault? = none
  /-- The directory is there. -/
  enter_eq : disk.enter dir = .ok here
  /-- The name is not too long. -/
  short : name.utf8ByteSize ≤ nameLimit
  /-- The name is not that of a directory. -/
  free : disk.entryAt? (name :: here) ≠ some .directory

/-- There is room for a file where its name is no directory's and the text of its path is one that
paths can have. -/
lemma Room.of_free {disk : Disk} {dir : Path} {here : Location} {name : String}
    (h : IsFileName name) (henter : disk.enter dir = .ok here)
    (hnul : '\x00' ∉ dir.text.toList ++ name.toList)
    (hshort : name.utf8ByteSize ≤ nameLimit)
    (hlimit : dir.text.utf8ByteSize + name.utf8ByteSize < Path.limit)
    (hfree : disk.entryAt? (name :: here) ≠ some .directory) : disk.Room dir here name := by
  rw [List.mem_append, not_or] at hnul
  obtain ⟨front, hfront, hjoin⟩ := dir.exists_join_eq
  have hmem : '\x00' ∉ front.toList := by
    rcases hfront with rfl | rfl
    · exact hnul.1
    · simpa using hnul.1
  have hsize : front.utf8ByteSize ≤ dir.text.utf8ByteSize + 1 := by
    rcases hfront with rfl | rfl
    · exact Nat.le_succ _
    · rw [String.utf8ByteSize_append]
      exact Nat.le_refl _
  refine ⟨?_, henter, hshort, hfree⟩
  rw [hjoin name (Path.isAbsolute_eq_false h.slash_notMem), fault?_eq_none_iff]
  refine ⟨?_, ?_, ?_⟩
  · simp [hmem, hnul.2]
  · simp [h.ne_empty]
  · rw [String.utf8ByteSize_append]
    omega

/-- The disk with a file where there is room for one. -/
def Room.put {disk : Disk} {dir : Path} {here : Location} {name : String}
    (room : disk.Room dir here name) (text : String) : Disk :=
  disk.put here name (.file text.toUTF8) (entryAt?_enter room.enter_eq) room.free

/-- **Writing under a joined name** succeeds exactly where there is room, and puts the file
there. -/
lemma writeText_join_eq_ok_iff {disk after : Disk} {dir : Path} {name text : String}
    (h : IsFileName name) :
    disk.writeText (dir.join ⟨name⟩) text = .ok after ↔
      ∃ here, ∃ room : disk.Room dir here name, after = room.put text := by
  constructor
  · intro hwrite
    rw [writeText, writeBytes] at hwrite
    split at hwrite
    · cases hwrite
    · next htarget =>
        obtain ⟨-, here, -, hwithin⟩ := (target_join_eq_ok_iff h).mp htarget
        cases hwithin
    · next parent other marked htarget =>
        obtain ⟨hfault, here, henter, hwithin⟩ := (target_join_eq_ok_iff h).mp htarget
        cases hwithin
        rw [if_neg Bool.false_ne_true] at hwrite
        split at hwrite
        · cases hwrite
        · next hshort =>
            rw [dif_pos (entryAt?_enter henter)] at hwrite
            split at hwrite
            · cases hwrite
            · next hfree =>
                exact ⟨parent, ⟨hfault, henter, Nat.not_lt.mp hshort, hfree⟩,
                  (Except.ok.inj hwrite).symm⟩
  · rintro ⟨here, room, rfl⟩
    have htarget : disk.target (dir.join ⟨name⟩) = .ok (.within here name false) :=
      (target_join_eq_ok_iff h).mpr ⟨room.fault_eq, here, room.enter_eq, rfl⟩
    rw [writeText, writeBytes, htarget]
    simp only [Bool.false_eq_true, if_false, if_neg (Nat.not_lt.mpr room.short),
      entryAt?_enter room.enter_eq, dite_true, dif_neg room.free]
    rfl

/-- A disk grows when a file is put where there is room. -/
lemma Room.grows_put {disk : Disk} {dir : Path} {here : Location} {name : String}
    (room : disk.Room dir here name) (text : String) : disk.Grows (room.put text) :=
  Disk.grows_put disk _ _

/-- What is at a location after a file is put where there is room. -/
lemma Room.entryAt?_put {disk : Disk} {dir : Path} {here : Location} {name : String}
    (room : disk.Room dir here name) (text : String) (location : Location) :
    (room.put text).entryAt? location =
      if location = name :: here then some (.file text.toUTF8) else disk.entryAt? location :=
  Disk.entryAt?_put disk here name _ _ _ location

variable {disk : Disk} {dir : Path} {here : Location} {name other text : String}

/-- There is room for a file beside one that is put. -/
lemma Room.room_put (room : disk.Room dir here name) (text : String) (hne : other ≠ name)
    (hother : disk.Room dir here other) : (room.put text).Room dir here other := by
  refine ⟨hother.fault_eq, (room.grows_put text).enter_eq room.enter_eq, hother.short, ?_⟩
  rw [room.entryAt?_put, if_neg fun heq => hne (List.cons.inj heq).1]
  exact hother.free

/-- Where there is room for a file beside one that is put, there was before. -/
lemma Room.of_room_put (room : disk.Room dir here name) {text : String} (hne : other ≠ name)
    {there : Location} (hother : (room.put text).Room dir there other) :
    there = here ∧ disk.Room dir here other := by
  have henter := hother.enter_eq
  rw [(room.grows_put text).enter_eq room.enter_eq] at henter
  cases henter
  refine ⟨rfl, hother.fault_eq, room.enter_eq, hother.short, ?_⟩
  have hfree := hother.free
  rwa [room.entryAt?_put, if_neg fun heq => hne (List.cons.inj heq).1] at hfree

/-! ## Refusals -/

/-- **What a directory refuses.** In a directory that can be entered, a file cannot be written for a
fault of its path, a name that is too long, or a directory of that name. -/
lemma writeText_join_eq_error_iff {cause : IoError} (h : IsFileName name)
    (henter : disk.enter dir = .ok here) :
    disk.writeText (dir.join ⟨name⟩) text = .error cause ↔
      (dir.join ⟨name⟩).fault? = some cause ∨
        (dir.join ⟨name⟩).fault? = none ∧
          (nameLimit < name.utf8ByteSize ∧ cause = .nameTooLong ∨
            name.utf8ByteSize ≤ nameLimit ∧ disk.entryAt? (name :: here) = some .directory ∧
              cause = .isDirectory) := by
  rw [writeText, writeBytes, target_join disk dir h]
  cases (dir.join ⟨name⟩).fault? with
  | some fault => simp
  | none =>
      rw [henter]
      by_cases hlong : nameLimit < name.utf8ByteSize
      · simp [Except.map, hlong, Nat.not_le.mpr hlong, @eq_comm _ cause]
      · have hshort := Nat.not_lt.mp hlong
        by_cases hentry : disk.entryAt? (name :: here) = some .directory
        · simp [Except.map, hlong, hshort, hentry, entryAt?_enter henter, @eq_comm _ cause]
        · simp [Except.map, hlong, hentry, entryAt?_enter henter]

/-- A file that is put does not change why another one is refused. -/
lemma Room.writeText_put_eq_error_iff {cause : IoError} {content : String}
    (room : disk.Room dir here name) (hother : IsFileName other) (hne : other ≠ name) :
    (room.put text).writeText (dir.join ⟨other⟩) content = .error cause ↔
      disk.writeText (dir.join ⟨other⟩) content = .error cause := by
  rw [writeText_join_eq_error_iff hother ((room.grows_put text).enter_eq room.enter_eq),
    writeText_join_eq_error_iff hother room.enter_eq, room.entryAt?_put,
    if_neg fun heq => hne (List.cons.inj heq).1]

/-! ## Stored texts -/

/-- The file with a name in the directory at a path, which is at a location, holds a text. -/
structure Stored (disk : Disk) (dir : Path) (here : Location) (name text : String) : Prop where
  /-- The file can be where it is. -/
  room : disk.Room dir here name
  /-- It holds the text. -/
  entry_eq : disk.entryAt? (name :: here) = some (.file text.toUTF8)

/-- What was put where there is room is stored. -/
lemma Room.stored_put (room : disk.Room dir here name) (text : String) :
    (room.put text).Stored dir here name text := by
  have hentry : (room.put text).entryAt? (name :: here) = some (.file text.toUTF8) := by
    rw [room.entryAt?_put, if_pos rfl]
  refine ⟨⟨room.fault_eq, (room.grows_put text).enter_eq room.enter_eq, room.short, ?_⟩, hentry⟩
  rw [hentry]
  exact nofun

/-- A stored text stays through growth that leaves its entry alone. -/
lemma Stored.of_grows {before after : Disk} (h : before.Stored dir here name text)
    (hgrows : before.Grows after)
    (hsame : after.entryAt? (name :: here) = before.entryAt? (name :: here)) :
    after.Stored dir here name text :=
  ⟨⟨h.room.fault_eq, hgrows.enter_eq h.room.enter_eq, h.room.short, hsame ▸ h.room.free⟩,
    hsame.trans h.entry_eq⟩

/-- The path of a stored text leads to its file. -/
lemma Stored.resolve_eq (h : disk.Stored dir here name text) (hname : IsFileName name) :
    disk.resolve (dir.join ⟨name⟩) = .ok (name :: here) := by
  have hpresent : disk.entryAt? (name :: here) ≠ none := by
    rw [h.entry_eq]
    exact nofun
  rw [resolve_join disk dir hname.slash_notMem, h.room.fault_eq, h.room.enter_eq]
  exact follow_eq_ok hname (entryAt?_enter h.room.enter_eq) h.room.short hpresent

/-- The bytes of a text are read as that text. -/
lemma fromUTF8?_toUTF8 (text : String) : String.fromUTF8? text.toUTF8 = some text := by
  simp [String.fromUTF8?, text.isValidUTF8]
  rfl

/-- A stored text is read back. -/
lemma Stored.readText_eq (h : disk.Stored dir here name text) (hname : IsFileName name) :
    disk.readText (dir.join ⟨name⟩) = .ok text := by
  rw [readText, readBytes, h.resolve_eq hname]
  simp only [h.entry_eq, fromUTF8?_toUTF8]

/-- Writing a stored text again changes nothing. -/
lemma Stored.writeText_eq (h : disk.Stored dir here name text) (hname : IsFileName name) :
    disk.writeText (dir.join ⟨name⟩) text = .ok disk := by
  refine (writeText_join_eq_ok_iff hname).mpr ⟨here, h.room, ?_⟩
  exact (put_of_entryAt?_eq disk _ _ h.entry_eq).symm

end Disk

end Conformance
