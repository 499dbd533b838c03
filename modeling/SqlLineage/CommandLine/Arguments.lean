/-
Module: SqlLineage.CommandLine.Arguments
Purpose: The arguments of the tool. An option with a value takes the rest of its own word, or the next word
  unless that looks like an option; each may be given once.
Main exports: Command, ParseCommand, UsageError, Stop, Word, readCommand
-/
import SqlLineage.CommandLine.Source
import SqlLineage.Flow.Render

namespace SqlLineage.CommandLine

open SqlLineage.Flow (OutputFormat)

/-- What to parse and how. -/
structure ParseCommand where
  input : SqlInput
  format : OutputFormat := .text
  /-- The address of a remote parse service, which is then asked first. -/
  remote : Option String := none
  /-- The file with the configuration. -/
  config : Option String := none
deriving Repr, Inhabited, DecidableEq

/-- What the tool is asked to do. -/
inductive Command where
  | parse (command : ParseCommand)
  | legend
  | version
deriving Repr, Inhabited, DecidableEq

/-- The options with values. -/
inductive ValueOption where
  | file
  | sql
  | format
  | remote
  | config
deriving Repr, Inhabited, DecidableEq

namespace ValueOption

def name : ValueOption → String
  | file => "file"
  | sql => "sql"
  | format => "format"
  | remote => "remote"
  | config => "config"

/-- The letter that stands for the option. -/
def letter? : ValueOption → Option Char
  | file => some 'f'
  | config => some 'c'
  | _ => none

def all : List ValueOption := [file, sql, format, remote, config]

/-- Whether the value is the path of a file, which cannot be empty. -/
def isPath : ValueOption → Bool
  | file | config => true
  | _ => false

end ValueOption

/-- What is wrong with the arguments. -/
inductive UsageError where
  | missingCommand
  | unknownCommand (name : String)
  | unexpected (word : String)
  | missingValue (option : ValueOption)
  | repeated (option : ValueOption)
  | unknownFormat (name : String)
  | missingInput
  | twoInputs
deriving Repr, Inhabited, DecidableEq

def UsageError.message : UsageError → String
  | missingCommand => "a command is required: parse, legend or version"
  | unknownCommand name => "unrecognized command '" ++ name ++ "'"
  | unexpected word => "unexpected argument '" ++ word ++ "'"
  | missingValue option => "a value is required for '--" ++ option.name ++ "'"
  | repeated option => "the argument '--" ++ option.name ++ "' cannot be used multiple times"
  | unknownFormat name => "invalid value '" ++ name ++ "' for '--format'"
  | missingInput => "either --file or --sql is required"
  | twoInputs => "the argument '--file' cannot be used with '--sql'"

/-- Why no command is run. -/
inductive Stop where
  | help
  | version
  | usage (problem : UsageError)
deriving Repr, Inhabited, DecidableEq

/-! ### Words -/

/-- The looks of an argument. -/
inductive Word where
  /-- Two dashes alone: what follows are no options. -/
  | escape
  /-- An option by name, with what follows an equals sign. -/
  | long (name : String) (value : Option String)
  /-- Options by letters, the first apart from the others. -/
  | short (letter : Char) (more : List Char)
  | plain (text : String)
deriving Repr, Inhabited, DecidableEq

/-- The looks of an argument. A lone dash is no option. -/
def Word.ofText (text : String) : Word :=
  match text.toList with
  | ['-', '-'] => escape
  | '-' :: '-' :: rest =>
    match Text.cutFirst '=' rest with
    | some (name, value) => long (String.ofList name) (some (String.ofList value))
    | none => long (String.ofList rest) none
  | '-' :: letter :: more => short letter more
  | _ => plain text

/-! ### Options -/

/-- The options that have been given with their values. -/
abbrev Given := List (ValueOption × String)

/-- Notes the value of an option. -/
def give (given : Given) (option : ValueOption) (value : String) : Except Stop Given :=
  if given.any (·.1 == option) then .error (.usage (.repeated option))
  else if value.isEmpty && option.isPath then .error (.usage (.missingValue option))
  else if option = .format && (OutputFormat.ofName? value).isNone then
    .error (.usage (.unknownFormat value))
  else .ok (given ++ [(option, value)])

/-- What letters after a dash come to. -/
inductive Letters where
  /-- Flags only. -/
  | flags
  /-- An option with its value. -/
  | valued (option : ValueOption) (value : String)
  /-- An option whose value is the next word. -/
  | pending (option : ValueOption)
  | stop (reason : Stop)
deriving Repr, Inhabited

/-- Reads letters after a dash. What follows the letter of an option with a value is the value, apart from
an equals sign in front. -/
def readLetters (options : List ValueOption) (word : String) : List Char → Letters
  | [] => .flags
  | letter :: rest =>
    if letter = 'v' then readLetters options word rest
    else if letter = 'h' then .stop .help
    else
      match options.find? (·.letter? == some letter) with
      | none => .stop (.usage (.unexpected word))
      | some option =>
        match rest with
        | [] => .pending option
        | '=' :: value => .valued option (String.ofList value)
        | value => .valued option (String.ofList value)

mutual

/-- Reads the words after a command that takes these options. -/
def readOptions (options : List ValueOption) (given : Given) : List String → Except Stop Given
  | [] => .ok given
  | word :: rest =>
    let unexpected : Except Stop Given := .error (.usage (.unexpected word))
    match Word.ofText word with
    | .escape =>
      match rest with
      | [] => .ok given
      | next :: _ => .error (.usage (.unexpected next))
    | .plain _ => unexpected
    | .long "verbose" none => readOptions options given rest
    | .long "help" none => .error .help
    | .long name value =>
      match options.find? (·.name == name), value with
      | some option, some value => do
        readOptions options (← give given option value) rest
      | some option, none => readValue options given option rest
      | none, _ => unexpected
    | .short letter more =>
      match readLetters options word (letter :: more) with
      | .flags => readOptions options given rest
      | .valued option value => do
        readOptions options (← give given option value) rest
      | .pending option => readValue options given option rest
      | .stop reason => .error reason

/-- Reads the value of an option from the next word, and the words after it. -/
def readValue (options : List ValueOption) (given : Given) (option : ValueOption) :
    List String → Except Stop Given
  | [] => .error (.usage (.missingValue option))
  | word :: rest =>
    match Word.ofText word with
    | .plain value => do
      readOptions options (← give given option value) rest
    | _ => .error (.usage (.missingValue option))

end

/-! ### Commands -/

/-- The command to parse with these options. There must be one input. -/
def parseCommandOf (given : Given) : Except Stop ParseCommand := do
  let input ←
    match given.lookup .file, given.lookup .sql with
    | some _, some _ => throw (.usage .twoInputs)
    | none, some sql => pure (.inline sql)
    | some file, none => pure (.ofFileArgument file)
    | none, none => throw (.usage .missingInput)
  pure {
    input
    format := ((given.lookup .format).bind OutputFormat.ofName?).getD .text
    remote := given.lookup .remote
    config := given.lookup .config }

/-- What a call for help on these topics comes to. No command has topics of its own. -/
def helpOn : List String → Stop
  | [] => .help
  | topic :: rest =>
    if !(["parse", "legend", "version", "help"].contains topic) then .usage (.unknownCommand topic)
    else
      match rest with
      | [] => .help
      | next :: _ => .usage (.unknownCommand next)

/-- The command with this name and the words after it. -/
def commandNamed (name : String) (rest : List String) : Except Stop Command :=
  match name with
  | "parse" => do pure (.parse (← parseCommandOf (← readOptions ValueOption.all [] rest)))
  | "legend" => do
    let _ ← readOptions [] [] rest
    pure .legend
  | "version" => do
    let _ ← readOptions [] [] rest
    pure .version
  | "help" => .error (helpOn rest)
  | _ => .error (.usage (.unknownCommand name))

/-- Whether letters before a command ask for something at once, or are not known. -/
def stopAtLetters (word : String) : List Char → Option Stop
  | [] => none
  | letter :: rest =>
    if letter = 'v' then stopAtLetters word rest
    else if letter = 'V' then some .version
    else if letter = 'h' then some .help
    else some (.usage (.unexpected word))

/-- The command that arguments ask for. -/
def readCommand : List String → Except Stop Command
  | [] => .error (.usage .missingCommand)
  | word :: rest =>
    match Word.ofText word with
    | .plain name => commandNamed name rest
    | .long "verbose" none => readCommand rest
    | .long "version" none => .error .version
    | .long "help" none => .error .help
    | .short letter more =>
      match stopAtLetters word (letter :: more) with
      | some reason => .error reason
      | none => readCommand rest
    | .escape =>
      match rest with
      | [] => .error (.usage .missingCommand)
      | next :: _ => .error (.usage (.unexpected next))
    | .long _ _ => .error (.usage (.unexpected word))

end SqlLineage.CommandLine
