import Conformance.IoError
import Conformance.Path
import Conformance.Toml.Document
import Conformance.Toml.Place

/-!
# Settings

What a configuration file can set, and what is wrong with one that cannot be used.

* **Settings** (`Settings`): the directory for the fixtures and the log level, each with a default.
* **Reading** (`Settings.parse`): the document's root may hold these two keys only, each with a
  string. The keys are visited in the order of the document, and the first that offends is reported
  with its place: an unknown key at the key, a value of another type at the value.
* **Faults** (`Settings.Fault`): a file that cannot be read, a text that is no TOML document, with
  the parser's reason, or an offending key.
-/

namespace Conformance

/-- The name of the configuration file. -/
def settingsFile : String := "semfix.toml"

/-- The directory for the fixtures where none is set. -/
def defaultDirectory : String := "generated_tests"

/-- What can be set in a configuration file. -/
structure Settings where
  /-- The directory for the fixtures. -/
  outputDir : Path := ⟨defaultDirectory⟩
  /-- The log level as it is written. -/
  logLevel : String := "warn"
  deriving DecidableEq

namespace Settings

/-- Whether settings are the default ones, directories being told apart by their components. -/
def isDefault (settings : Settings) : Bool :=
  settings.outputDir.sameComponents ⟨defaultDirectory⟩ && settings.logLevel = "warn"

/-! ## Fields -/

/-- A setting. -/
inductive Field where
  | outputDir
  | logLevel
  deriving DecidableEq

/-- The key of a setting. -/
def Field.key : Field → String
  | outputDir => "output_dir"
  | logLevel => "log_level"

/-- The setting of a key. -/
def Field.ofKey? : String → Option Field
  | "output_dir" => some outputDir
  | "log_level" => some logLevel
  | _ => none

/-- The words for the value that a setting takes. -/
def Field.expected : Field → String
  | outputDir => "path string"
  | logLevel => "a string"

/-- The settings with one of them changed. -/
def set (settings : Settings) (field : Field) (value : String) : Settings :=
  match field with
  | .outputDir => { settings with outputDir := ⟨value⟩ }
  | .logLevel => { settings with logLevel := value }

/-! ## Faults -/

/-- Why a configuration cannot be used. -/
inductive Fault where
  /-- Its file cannot be read. -/
  | unreadable (cause : IoError)
  /-- It is no TOML document, for the reason that the parser gives, if it gives one. -/
  | invalidSyntax (reason? : Option String)
  /-- It has a key that is no setting. -/
  | unknownKey (place : Toml.Place) (key : String)
  /-- It gives a setting something else than a string. -/
  | wrongType (place : Toml.Place) (found : String) (field : Field)
  /-- A cause given in words. -/
  | described (text : String)
  deriving DecidableEq

/-- The text of a fault. -/
def Fault.message : Fault → String
  | unreadable cause => "could not read file: " ++ cause.message
  | invalidSyntax (some reason) => "invalid syntax: " ++ reason
  | invalidSyntax none => "invalid syntax"
  | unknownKey place key =>
    "invalid syntax: " ++ place.excerpt ++ "unknown field `" ++ key ++ "`, expected `" ++
      Field.outputDir.key ++ "` or `" ++ Field.logLevel.key ++ "`\n"
  | wrongType place found field =>
    "invalid syntax: " ++ place.excerpt ++ "invalid type: " ++ found ++ ", expected " ++
      field.expected ++ "\n"
  | described text => text

/-- The words for something that is found where a string is expected. -/
def foundText : Toml.Item → String
  | .string text => "string `" ++ text ++ "`"
  | .integer value => "integer `" ++ toString value ++ "`"
  | .float value => "floating point `" ++ value.text ++ "`"
  | .boolean value => "boolean `" ++ toString value ++ "`"
  | .array _ => "sequence"
  | .tables _ => "sequence"
  | .table _ _ => "map"
  | .dateTime _ => "map"

/-! ## Reading -/

/-- The settings after the remaining entries of a document's root. -/
def visit (document : List Char) : Toml.Entries → Settings → Except Fault Settings
  | [], settings => .ok settings
  | entry :: rest, settings =>
    match Field.ofKey? entry.key.text with
    | none => .error (.unknownKey (entry.key.stretch.place document) entry.key.text)
    | some field =>
      match entry.item with
      | .string text => visit document rest (settings.set field text)
      | item => .error (.wrongType (entry.stretch.place document) (foundText item) field)

/-- The settings that a configuration file's text gives. If it is no TOML document, the parser's
reason is kept. -/
def parse [Toml.Wording] (content : String) : Except Fault Settings :=
  let document := content.toList
  match Toml.document? document with
  | some entries => visit document entries {}
  | none => .error (.invalidSyntax (Toml.Wording.reason? content))

end Settings

end Conformance
