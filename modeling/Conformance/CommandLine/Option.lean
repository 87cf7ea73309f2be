import Conformance.Path

/-!
# Commands and options

What can be asked of the program on its command line.

* **Levels** (`Level`): the program itself and its four commands; each has options of its own, and
  the options of the program may stand after the command as well.
* **Options** (`ValueOption`, `Flag`): an option takes a value, a flag takes none.
* **Requests** (`Invocation`): a command with what it was given.
-/

namespace Conformance.CommandLine

/-- The part of a command line that arguments belong to. -/
inductive Level where
  /-- What stands before the command. -/
  | program
  | generate
  | list
  | display
  | check
  deriving DecidableEq

/-- The commands in the order in which help lists them. -/
def Level.commands : List Level := [.generate, .list, .display, .check]

/-- The word for a command; the program itself has none. -/
def Level.name : Level → String
  | program => ""
  | generate => "generate"
  | list => "list"
  | display => "show"
  | check => "check"

/-- The command of a word. -/
def Level.ofName? (name : String) : Option Level :=
  Level.commands.find? (·.name = name)

/-! ## Options -/

/-- An option that takes a value. -/
inductive ValueOption where
  | config
  | logLevel
  | out
  | dir
  deriving DecidableEq

namespace ValueOption

/-- The name of an option after its two hyphens. -/
def long : ValueOption → String
  | config => "config"
  | logLevel => "log-level"
  | out => "out"
  | dir => "dir"

/-- The letter of an option after one hyphen. -/
def short? : ValueOption → Option Char
  | config => none
  | logLevel => none
  | out => some 'o'
  | dir => some 'd'

/-- The name of an option's value. -/
def valueName : ValueOption → String
  | config => "CONFIG"
  | logLevel => "LOG_LEVEL"
  | out => "OUT"
  | dir => "DIR"

/-- An option as messages show it. -/
def shown (option : ValueOption) : String :=
  "--" ++ option.long ++ " <" ++ option.valueName ++ ">"

/-- Whether the value of an option is a path, which must not be empty. -/
def isPath : ValueOption → Bool
  | logLevel => false
  | _ => true

end ValueOption

/-- An option that takes no value. -/
inductive Flag where
  | json
  | help
  | version
  deriving DecidableEq

namespace Flag

/-- The name of a flag after its two hyphens. -/
def long : Flag → String
  | json => "json"
  | help => "help"
  | version => "version"

/-- The letter of a flag after one hyphen. -/
def short? : Flag → Option Char
  | json => none
  | help => some 'h'
  | version => some 'V'

/-- A flag as messages show it. -/
def shown (flag : Flag) : String := "--" ++ flag.long

end Flag

/-- The options that may stand at a level. -/
def Level.options : Level → List ValueOption
  | generate => [.config, .logLevel, .out]
  | check => [.config, .logLevel, .dir]
  | _ => [.config, .logLevel]

/-- The flags that may stand at a level. -/
def Level.flags : Level → List Flag
  | program => [.help, .version]
  | list => [.json, .help]
  | _ => [.help]

/-! ## Requests -/

/-- A command with its own arguments. -/
inductive Command where
  /-- Write the fixtures. -/
  | generate (out : Option Path)
  /-- List the fixtures. -/
  | list (json : Bool)
  /-- Show a fixture. -/
  | display (name : String)
  /-- Compare a directory with the fixtures. -/
  | check (dir : Option Path)
  deriving DecidableEq

/-- What the program is asked to do. -/
structure Invocation where
  /-- The configuration file to use. -/
  config : Option Path
  /-- The log level to use. -/
  logLevel : Option String
  /-- The command. -/
  command : Command
  deriving DecidableEq

end Conformance.CommandLine
