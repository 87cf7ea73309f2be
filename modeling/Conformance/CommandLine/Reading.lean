import Conformance.CommandLine.Help
import Conformance.Text.Control

/-!
# Reading a command line

How the arguments of a run become an invocation.

* **Arguments** (`Argument`): an argument with two hyphens is a long option, with a value after an
  equals sign or none; one with a single hyphen is a letter with what follows it; two hyphens alone
  make every later argument a plain one.
* **Options in suspense** (`Draft.pending`): an option and its value are taken down only when the
  next option, flag or plain argument arrives, or at the end. So the complaint about an option that
  lacks its value, comes twice or has an empty path gives way to complaints about an unknown
  argument, and that of the program's options to all complaints about its command.
* **Outcome** (`read`): an invocation, a text to print (`Stop.shown`), or a mistake
  (`Stop.mistaken`).
-/

namespace Conformance.CommandLine

/-! ## Mistakes -/

/-- What is wrong with a command line. -/
inductive Mistake where
  /-- There is no argument at all. -/
  | noArguments
  /-- There is no command. -/
  | noCommand
  /-- A word that should be a command is none. -/
  | unrecognizedCommand (word : String)
  /-- An argument has no place here. -/
  | unexpectedArgument (argument : String)
  /-- An option has no value, or an empty one where a path is wanted. -/
  | valueRequired (option : ValueOption)
  /-- An option or flag stands there twice. -/
  | repeated (shown : String)
  /-- A flag has a value. -/
  | unexpectedValue (value : String) (flag : Flag)
  /-- The fixture to show is not named. -/
  | nameRequired
  deriving DecidableEq

/-- A word of the command line as a sentence shows it, without what would steer a terminal. -/
def quotedWord (word : String) : String :=
  "'" ++ Text.printable word ++ "'"

/-- The sentence for a mistake. -/
def Mistake.sentence : Mistake → String
  | noArguments => programAbout
  | noCommand => "error: 'semfix' requires a subcommand but one was not provided"
  | unrecognizedCommand word => "error: unrecognized subcommand " ++ quotedWord word
  | unexpectedArgument argument =>
    "error: unexpected argument " ++ quotedWord argument ++ " found"
  | valueRequired option =>
    "error: a value is required for '" ++ option.shown ++ "' but none was supplied"
  | repeated shown => "error: the argument '" ++ shown ++ "' cannot be used multiple times"
  | unexpectedValue value flag =>
    "error: unexpected value " ++ quotedWord value ++ " for '" ++ flag.shown ++
      "' found; no more were expected"
  | nameRequired => "error: the following required arguments were not provided:"

/-- What is said about a mistake: its sentence, as far as the end of the first line, because a word
of the command line may go over lines. -/
def Mistake.message (mistake : Mistake) : String :=
  String.ofList (mistake.sentence.toList.takeWhile (· ≠ '\n'))

/-- Why a command line does not lead to an invocation. -/
inductive Stop where
  /-- A text was asked for. -/
  | shown (text : String)
  /-- The command line is mistaken. -/
  | mistaken (mistake : Mistake)
  deriving DecidableEq

/-! ## Arguments -/

/-- What an argument looks like. -/
inductive Argument where
  /-- Two hyphens alone. -/
  | escape
  /-- A long option, with the value after its equals sign. -/
  | long (name : String) (value : Option String)
  /-- A letter after a hyphen, with what follows it. -/
  | short (letter : Char) (rest : List Char)
  /-- Anything else, a single hyphen included. -/
  | plain (text : String)

/-- An argument by its looks. -/
def Argument.ofText (text : String) : Argument :=
  match text.toList with
  | ['-', '-'] => escape
  | '-' :: '-' :: body =>
    let name := String.ofList (body.takeWhile (· ≠ '='))
    match body.dropWhile (· ≠ '=') with
    | [] => long name none
    | _ :: value => long name (some (String.ofList value))
  | '-' :: letter :: rest => short letter rest
  | _ => plain text

/-! ## Drafts -/

/-- What is known of a level while its arguments are read. -/
structure Draft where
  /-- The values of the options that are taken down. -/
  values : List (ValueOption × String) := []
  /-- Whether a JSON listing is asked for. -/
  json : Bool := false
  /-- The plain argument. -/
  name : Option String := none
  /-- The last option, with its value if that has been seen, before it is taken down. -/
  pending : Option (ValueOption × Option String) := none
  /-- Whether two hyphens have ended the options. -/
  trailing : Bool := false

namespace Draft

/-- The value of an option that is taken down. -/
def value? (draft : Draft) (option : ValueOption) : Option String :=
  draft.values.lookup option

/-- The draft with the option in suspense taken down. -/
def settle (draft : Draft) : Except Stop Draft :=
  match draft.pending with
  | none => .ok draft
  | some (option, none) => .error (.mistaken (.valueRequired option))
  | some (option, some value) =>
    if (draft.value? option).isSome then .error (.mistaken (.repeated option.shown))
    else if option.isPath && value.isEmpty then .error (.mistaken (.valueRequired option))
    else .ok { draft with values := (option, value) :: draft.values, pending := none }

/-- The draft after an option, with the value that is attached to it. -/
def takeOption (draft : Draft) (option : ValueOption) (attached : Option String) :
    Except Stop Draft := do
  let draft ← draft.settle
  let opened := { draft with pending := some (option, attached) }
  if attached.isSome then opened.settle else .ok opened

/-- The draft after a flag. -/
def takeFlag (draft : Draft) (level : Level) (flag : Flag) (attached : Option String) :
    Except Stop Draft :=
  match attached with
  | some value => .error (.mistaken (.unexpectedValue value flag))
  | none => do
    let draft ← draft.settle
    match flag with
    | .help => .error (.shown (helpText level))
    | .version => .error (.shown versionText)
    | .json =>
      if draft.json then .error (.mistaken (.repeated flag.shown))
      else .ok { draft with json := true }

/-- The draft after an option or flag by its long name. -/
def takeLong (draft : Draft) (level : Level) (name : String) (attached : Option String) :
    Except Stop Draft :=
  match level.options.find? (·.long = name), level.flags.find? (·.long = name) with
  | some option, _ => draft.takeOption option attached
  | none, some flag => draft.takeFlag level flag attached
  | none, none => .error (.mistaken (.unexpectedArgument ("--" ++ name)))

/-- The draft after letters behind a hyphen. A letter that is an option takes what follows it as its
value, without the equals sign that may stand between; flags may follow one another. -/
def takeShort (draft : Draft) (level : Level) (letter : Char) (rest : List Char) :
    Except Stop Draft :=
  match level.options.find? (·.short? = some letter),
    level.flags.find? (·.short? = some letter) with
  | some option, _ =>
    let attached :=
      match rest with
      | [] => none
      | '=' :: value => some (String.ofList value)
      | value => some (String.ofList value)
    draft.takeOption option attached
  | none, some flag => do
    let draft ← draft.takeFlag level flag none
    match rest with
    | [] => .ok draft
    | letter :: rest => draft.takeShort level letter rest
  | none, none => .error (.mistaken (.unexpectedArgument ("-" ++ letter.toString)))

/-- The draft after a plain argument. -/
def takePlain (draft : Draft) (level : Level) (text : String) : Except Stop Draft :=
  match level, draft.name with
  | .display, none => do
    let draft ← draft.settle
    return { draft with name := some text }
  | .program, _ =>
    let isCommand := (Level.ofName? text).isSome || text = "help"
    if draft.trailing && isCommand then .error (.mistaken (.unexpectedArgument text))
    else .error (.mistaken (.unrecognizedCommand text))
  | _, _ => .error (.mistaken (.unexpectedArgument text))

/-- Whether an option waits for its value. -/
def isOpen (draft : Draft) : Bool :=
  match draft.pending with
  | some (_, none) => true
  | _ => false

/-- The draft after an argument. -/
def take (draft : Draft) (level : Level) (text : String) : Except Stop Draft :=
  if draft.trailing then draft.takePlain level text
  else
    match Argument.ofText text with
    | .escape => .ok { draft with trailing := true }
    | .long name value => draft.takeLong level name value
    | .short letter rest => draft.takeShort level letter rest
    | .plain text =>
      match draft.pending with
      | some (option, none) => .ok { draft with pending := some (option, some text) }
      | _ => draft.takePlain level text

end Draft

/-! ## Commands -/

/-- The command of a level whose arguments are all taken down. -/
def Draft.command (draft : Draft) : Level → Except Stop Command
  | .generate => .ok (.generate ((draft.value? .out).map Path.mk))
  | .list => .ok (.list draft.json)
  | .display =>
    match draft.name with
    | some name => .ok (.display name)
    | none => .error (.mistaken .nameRequired)
  | .check => .ok (.check ((draft.value? .dir).map Path.mk))
  | .program => .error (.mistaken .noCommand)

/-- Reads the arguments of a command. -/
def readCommand (level : Level) (arguments : List String) : Except Stop (Draft × Command) := do
  let draft ← arguments.foldlM (fun (draft : Draft) text => draft.take level text) {}
  let draft ← draft.settle
  let command ← draft.command level
  return (draft, command)

/-- What the help command prints for the words after it. -/
def readHelp : List String → Stop
  | [] => .shown (helpText .program)
  | word :: words =>
    if word = "help" then
      match words with
      | [] => .shown helpOnHelp
      | other :: _ => .mistaken (.unrecognizedCommand other)
    else
      match Level.ofName? word, words with
      | some level, [] => .shown (helpText level)
      | some _, other :: _ => .mistaken (.unrecognizedCommand other)
      | none, _ => .mistaken (.unrecognizedCommand word)

/-- Reads the program's own arguments up to the command, and the command's after it. An option of
the program counts for the command unless it stands among the command's arguments too. -/
def readProgram (draft : Draft) : List String → Except Stop Invocation
  | [] => do
    let draft ← draft.settle
    if draft.values.isEmpty then .error (.mistaken .noArguments)
    else .error (.mistaken .noCommand)
  | word :: words =>
    let starts := !draft.trailing && !draft.isOpen
    if starts && word = "help" then .error (readHelp words)
    else
      match (if starts then Level.ofName? word else none) with
      | some level => do
        let (own, command) ← readCommand level words
        let draft ← draft.settle
        let value? (option : ValueOption) : Option String :=
          (own.value? option).or (draft.value? option)
        return ⟨(value? .config).map Path.mk, value? .logLevel, command⟩
      | none => do
        let draft ← draft.take .program word
        readProgram draft words

/-- The invocation that the arguments of a run ask for. -/
def read (arguments : List String) : Except Stop Invocation :=
  readProgram {} arguments

end Conformance.CommandLine
