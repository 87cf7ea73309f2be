import Conformance.Decimal.Binary64

/-!
# Tables of a TOML document

The values that a TOML document holds, and the rules by which its lines build the table of its root.

* **Items** (`Item`): scalars, arrays, tables and arrays of tables. A table remembers how it came to
  be (`TableKind`), because that decides what may be added to it later.
* **Entries** (`Entry`): an item under its key, with the stretch of the document that it takes, in
  the order in which the document first names the keys.
* **Assignments** (`assign`): a dotted key leads through tables that only dotted keys or headers
  have implied, creates those that are missing, and sets a key that is still free.
* **Headers** (`place`): a header opens a table that is missing or was only implied by a longer
  header, and puts it last among its neighbours; a header with double brackets adds one more table
  to an array of tables. Every other repetition is refused.
-/

namespace Conformance.Toml

/-- A stretch of a document: what is left of the document where it starts, and where it stops. -/
structure Stretch where
  /-- The document from the first character of the stretch on. -/
  start : List Char
  /-- The document after the last character of the stretch. -/
  stop : List Char

/-- One part of a dotted key. -/
structure Key where
  /-- The key without quotation marks and escapes. -/
  text : String
  /-- The key as it is written. -/
  stretch : Stretch

/-- How a table came to be. -/
inductive TableKind where
  /-- It is written between braces, and complete. -/
  | braced
  /-- It has a header of its own, or is the root. -/
  | headed
  /-- A longer header leads through it. -/
  | implied
  /-- A dotted key leads through it. -/
  | dotted
  deriving DecidableEq

/-- Something under a key. -/
structure Entry (α : Type) where
  /-- The key. -/
  key : Key
  /-- What is written for the item; for an implied or dotted table it is the key. -/
  stretch : Stretch
  /-- The item. -/
  item : α

/-- What can be under a key. -/
inductive Item where
  | string (text : String)
  | integer (value : Int)
  | float (value : Binary64)
  | boolean (value : Bool)
  /-- A date, a time or both, as written. -/
  | dateTime (text : String)
  | array (elements : List Item)
  | table (kind : TableKind) (entries : List (Entry Item))
  /-- An array of tables, each under a header with double brackets. -/
  | tables (all : List (List (Entry Item)))

/-- The entries of a table in order. -/
abbrev Entries := List (Entry Item)

namespace Entries

/-- The entry under a key. -/
def find? (entries : Entries) (key : Key) : Option (Entry Item) :=
  List.find? (·.key.text = key.text) entries

/-- The entries with another item under a key. -/
def replace (entries : Entries) (key : Key) (item : Item) : Entries :=
  entries.map fun entry => if entry.key.text = key.text then { entry with item } else entry

/-- The entries without the one under a key. -/
def without (entries : Entries) (key : Key) : Entries :=
  entries.filter (·.key.text ≠ key.text)

end Entries

/-- Whether a path that makes tables of one kind where they are missing may lead through a table of
another. A header may lead through all but the complete ones, a dotted key only through those that
have no header. -/
def TableKind.leadsThrough : (make passed : TableKind) → Bool
  | _, braced => false
  | dotted, passed => passed = implied || passed = dotted
  | _, _ => true

/-- Changes the table that a path leads to. Tables that are missing on the way are made, and an
array of tables stands for its last table. -/
def within (make : TableKind) (change : TableKind → Entries → Option Entries) :
    List Key → TableKind → Entries → Option Entries
  | [], kind, entries => change kind entries
  | key :: path, _, entries =>
    match entries.find? key with
    | none =>
      (within make change path make []).map fun inner =>
        entries ++ [⟨key, key.stretch, .table make inner⟩]
    | some ⟨_, _, .table kind inner⟩ =>
      if make.leadsThrough kind then
        (within make change path kind inner).map fun inner =>
          entries.replace key (.table kind inner)
      else none
    | some ⟨_, _, .tables all⟩ =>
      match all.getLast? with
      | none => none
      | some last =>
        (within make change path .headed last).map fun last =>
          entries.replace key (.tables (all.dropLast ++ [last]))
    | some _ => none

/-! ## Assignments -/

/-- A key with its item, under the keys that lead to it. -/
structure Assignment where
  /-- The keys before the last dot. -/
  path : List Key
  /-- The last key, with what is assigned to it. -/
  entry : Entry Item

/-- The entries of a table after an assignment in it. Unless the path is empty, it has to end in a
table that dotted keys made. -/
def assign (entries : Entries) (assignment : Assignment) : Option Entries :=
  within .dotted
    (fun kind inner =>
      if assignment.path ≠ [] ∧ kind ≠ .dotted then none
      else
        match inner.find? assignment.entry.key with
        | some _ => none
        | none => some (inner ++ [assignment.entry]))
    assignment.path .headed entries

/-- The entries of a table after assignments in order. -/
def assignAll (entries : Entries) (assignments : List Assignment) : Option Entries :=
  assignments.foldlM assign entries

/-! ## Headers -/

/-- A header with the assignments below it. -/
structure Section where
  /-- Whether the header has double brackets. -/
  repeated : Bool
  /-- The keys of the header before the last. -/
  path : List Key
  /-- The last key of the header. -/
  key : Key
  /-- The header and what is below it, up to the last assigned value. -/
  stretch : Stretch
  /-- The assignments below the header. -/
  assignments : List Assignment

/-- The entries of the root after a section. -/
def place (root : Entries) (part : Section) : Option Entries :=
  within .implied
    (fun _ entries =>
      match part.repeated, entries.find? part.key with
      | false, none =>
        (assignAll [] part.assignments).map fun own =>
          entries ++ [⟨part.key, part.stretch, .table .headed own⟩]
      | false, some ⟨_, _, .table .implied inner⟩ =>
        (assignAll inner part.assignments).map fun own =>
          entries.without part.key ++ [⟨part.key, part.stretch, .table .headed own⟩]
      | true, none =>
        (assignAll [] part.assignments).map fun own =>
          entries ++ [⟨part.key, part.stretch, .tables [own]⟩]
      | true, some ⟨_, _, .tables all⟩ =>
        (assignAll [] part.assignments).map fun own =>
          entries.map fun entry =>
            if entry.key.text = part.key.text then
              { entry with
                stretch := ⟨entry.stretch.start, part.stretch.stop⟩
                item := .tables (all ++ [own]) }
            else entry
      | _, _ => none)
    part.path .headed root

end Conformance.Toml
