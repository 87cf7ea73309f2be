import Conformance.Toml.Grammar

/-!
# TOML documents

* **Sections** (`sections`): the statements before the first header belong to the root, those after
  a header to the table that it names.
* **Document** (`document?`): the entries of the root, in the order in which the document names
  them, or nothing where the text is no TOML document.
* **Reasons** (`Wording`): why a text is no document, in the words of a parser. They differ from
  parser to parser and are left open here; the reader of this module has none.
-/

namespace Conformance.Toml

/-- The assignments before the first header, and each header with the assignments below it. -/
def sections : List Statement → List Assignment × List Section
  | [] => ([], [])
  | .assignment assignment :: rest =>
    let (leading, parts) := sections rest
    (assignment :: leading, parts)
  | .header repeated path key stretch :: rest =>
    let (own, parts) := sections rest
    let stop := (own.getLast?.map (·.entry.stretch.stop)).getD stretch.stop
    ([], ⟨repeated, path, key, ⟨stretch.start, stop⟩, own⟩ :: parts)

/-- A text without the byte order mark that it may begin with. -/
def skipByteOrderMark : List Char → List Char
  | '\uFEFF' :: rest => rest
  | text => text

/-- The entries of a document's root. -/
def document? (text : List Char) : Option Entries := do
  let statements ← statements? (text.length + 1) (skipByteOrderMark text)
  let (leading, parts) := sections statements
  let root ← assignAll [] leading
  parts.foldlM place root

/-- The words of a TOML parser for the texts that it refuses. -/
class Wording where
  /-- The reason why a text is no document, if the parser gives one. -/
  reason? : String → Option String

/-- No reason is given for a text that `document?` refuses. -/
instance instWordingSilent : Wording where
  reason? _ := none

end Conformance.Toml
