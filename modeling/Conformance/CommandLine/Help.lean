import Conformance.CommandLine.Option

/-!
# Help

The texts that describe the program and its commands.

* **Layout** (`helpText`): what the command does, how it is used, its arguments, its options.
  Descriptions of options stand in one column.
-/

namespace Conformance.CommandLine

/-- What the program is for. -/
def programAbout : String := "Semantic analyzer conformance fixture generator"

/-- What `--version` prints. -/
def versionText : String := "semfix 0.1.0\n"

/-- What a command does; for the program itself, what it is for. -/
def Level.about : Level → String
  | program => programAbout
  | generate => "Write every fixture as <name>.in / <name>.out"
  | list => "List fixture names in emission order"
  | display => "Print one fixture's input and expected output"
  | check => "Compare a generated directory against the catalogue"

/-- How a command is used. -/
def Level.usage : Level → String
  | program => "semfix [OPTIONS] <COMMAND>"
  | display => "semfix show [OPTIONS] <NAME>"
  | level => "semfix " ++ level.name ++ " [OPTIONS]"

/-- A text filled up with spaces to a number of columns. -/
def padded (width : Nat) (text : String) : String :=
  text ++ String.ofList (List.replicate (width - text.length) ' ')

/-- The help of an option or flag: how it is written and what it does. -/
structure HelpRow where
  /-- The short form with its comma, or spaces in its place. -/
  short : String
  /-- The long form with its value. -/
  long : String
  /-- What it does. -/
  about : String

/-- The line of a help row; all long forms are filled up to one width. -/
def HelpRow.line (width : Nat) (row : HelpRow) : String :=
  "  " ++ row.short ++ padded width row.long ++ "  " ++ row.about ++ "\n"

/-- The short form of an option with its comma, or spaces in its place. -/
def shortForm : Option Char → String
  | some letter => "-" ++ letter.toString ++ ", "
  | none => "    "

/-- The help row of an option. -/
def ValueOption.helpRow (option : ValueOption) : HelpRow where
  short := shortForm option.short?
  long := option.shown
  about :=
    match option with
    | config => "Config file (defaults to ./semfix.toml when present)"
    | logLevel => "Log level: error, warn, info, debug or trace"
    | out => "Destination directory"
    | dir => "Directory to check"

/-- The help row of a flag. -/
def Flag.helpRow (flag : Flag) : HelpRow where
  short := shortForm flag.short?
  long := flag.shown
  about :=
    match flag with
    | json => "Emit JSON instead of plain text"
    | help => "Print help"
    | version => "Print version"

/-- The rows of a level's options and flags in the order of its help: first the configuration file,
then what is the command's own, then the log level and the general flags. -/
def Level.helpRows (level : Level) : List HelpRow :=
  let own := (level.options.filter fun option => option = .out ∨ option = .dir).map
    ValueOption.helpRow
  let (general, special) := level.flags.partition (· ≠ .json)
  ValueOption.config.helpRow :: (own ++ special.map Flag.helpRow ++
    ValueOption.logLevel.helpRow :: general.map Flag.helpRow)

/-- The part of a level's help before its options: the commands of the program, or the arguments of
a command. -/
def Level.helpBody : Level → String
  | program =>
    "Commands:\n" ++
      String.join (Level.commands.map fun command =>
        "  " ++ padded 8 command.name ++ "  " ++ command.about ++ "\n") ++
      "  help      Print this message or the help of the given subcommand(s)\n\n"
  | display => "Arguments:\n  <NAME>  Fixture name\n\n"
  | _ => ""

/-- The help of a level. -/
def helpText (level : Level) : String :=
  let rows := level.helpRows
  let width := (rows.map fun row => row.long.length).foldl max 0
  level.about ++ "\n\nUsage: " ++ level.usage ++ "\n\n" ++ level.helpBody ++
    "Options:\n" ++ String.join (rows.map (HelpRow.line width))

/-- The help of the help command itself. -/
def helpOnHelp : String :=
  "Print this message or the help of the given subcommand(s)\n\n" ++
    "Usage: semfix help [COMMAND]...\n\n" ++
    "Arguments:\n  [COMMAND]...  Print help for the subcommand(s)\n"

end Conformance.CommandLine
