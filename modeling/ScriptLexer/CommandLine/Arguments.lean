import ScriptLexer.Settings.Basic

/-!
# Arguments

The words of a command line, read from left to right: options of the program, the name of a command,
then options of either and at most one file. An option is given at most once before the command and
once after it; what comes from the environment counts only where an option is not given. The first
word that does not fit ends the reading, and so does a wish for the version.
-/
namespace ScriptLexer.CommandLine

inductive CommandName where
  | tokens
  | check
  deriving DecidableEq, Repr

namespace CommandName

def name : CommandName → String
  | tokens => "tokens"
  | check => "check"

def all : List CommandName := [check, tokens]

def ofName? (word : String) : Option CommandName := all.find? fun command => command.name == word

end CommandName

/-- The program before any command is named, or one of its commands. -/
abbrev Level := Option CommandName

/-- An option without a value, or one that has to have one. -/
inductive Flag where
  | verbose
  | noColor
  | strictComments
  | version
  deriving DecidableEq, Repr

inductive Setting where
  | config
  | format
  deriving DecidableEq, Repr

inductive Switch where
  | flag (flag : Flag)
  | setting (setting : Setting)
  deriving DecidableEq, Repr

/-- The option of a long name, where the level has one. -/
def longSwitch? (level : Level) (name : String) : Option Switch :=
  match name with
  | "verbose" => some (.flag .verbose)
  | "no-color" => some (.flag .noColor)
  | "version" => some (.flag .version)
  | "config" => some (.setting .config)
  | "strict-comments" => level.map fun _ => .flag .strictComments
  | "format" => if level = some .tokens then some (.setting .format) else none
  | _ => none

/-- The option of a letter, where the level has one. -/
def shortSwitch? (level : Level) (letter : Char) : Option Switch :=
  match letter with
  | 'v' => some (.flag .verbose)
  | 'V' => some (.flag .version)
  | 'c' => some (.setting .config)
  | 'F' => if level = some .tokens then some (.setting .format) else none
  | _ => none

/-- What is given at one level. -/
structure Given where
  verbose : Bool := false
  noColor : Bool := false
  strictComments : Bool := false
  config : Option String := none
  format : Option ReportFormat := none
  file : Option String := none
  deriving DecidableEq, Repr

/-- Why reading the words ends early. -/
inductive Stop where
  /-- The words, or the environment, do not fit. -/
  | usage
  | version (level : Level)
  deriving DecidableEq, Repr

namespace Given

def setFlag (level : Level) (given : Given) : Flag → Except Stop Given
  | .verbose => if given.verbose then .error .usage else .ok { given with verbose := true }
  | .noColor => if given.noColor then .error .usage else .ok { given with noColor := true }
  | .strictComments =>
    if given.strictComments then .error .usage else .ok { given with strictComments := true }
  | .version => .error (.version level)

/-- An option has one value at a level, and the empty text is none. -/
def setSetting (given : Given) (value : String) : Setting → Except Stop Given
  | .config =>
    if given.config.isSome || value == "" then .error .usage
    else .ok { given with config := some value }
  | .format =>
    match given.format, ReportFormat.ofName? value with
    | none, some format => .ok { given with format := some format }
    | _, _ => .error .usage

def setFile (given : Given) (file : String) : Except Stop Given :=
  if given.file.isSome || file == "" then .error .usage else .ok { given with file := some file }

end Given

/-- A word that stands for itself, as a value or a file; a lone dash is one. -/
def isPlainWord (word : String) : Bool := word == "-" || !word.startsWith "-"

/-- What a word that names options does: it leaves what is given, or still wants a value. -/
inductive Effect where
  | done (given : Given)
  | wants (given : Given) (setting : Setting)

/-- An option by its long name, with a value behind an equals sign or without. -/
def readLong (level : Level) (given : Given) (word : List Char) : Except Stop Effect :=
  let name := String.ofList (word.takeWhile (· != '='))
  match longSwitch? level name, word.dropWhile (· != '=') with
  | some (.flag flag), [] => (given.setFlag level flag).map .done
  | some (.setting setting), _ :: value =>
    (given.setSetting (String.ofList value) setting).map .done
  | some (.setting setting), [] => .ok (.wants given setting)
  | _, _ => .error .usage

/-- Options by their letters. A value may follow its letter at once, or behind an equals sign. -/
def readShort (level : Level) (given : Given) : List Char → Except Stop Effect
  | [] => .ok (.done given)
  | letter :: rest =>
    match shortSwitch? level letter with
    | some (.flag flag) => do readShort level (← given.setFlag level flag) rest
    | some (.setting setting) =>
      match rest with
      | [] => .ok (.wants given setting)
      | '=' :: value => (given.setSetting (String.ofList value) setting).map .done
      | value => (given.setSetting (String.ofList value) setting).map .done
    | none => .error .usage

/-- A word that begins with a dash and is not a plain one. -/
def readSwitches (level : Level) (given : Given) (word : String) : Except Stop Effect :=
  match word.toList with
  | '-' :: '-' :: name => readLong level given name
  | _ :: letters => readShort level given letters
  | [] => .error .usage

/-- Words after the double dash, all of them files. -/
def readFiles (given : Given) : List String → Except Stop Given
  | [] => .ok given
  | file :: files => do readFiles (← given.setFile file) files

/-- Words after the name of a command. -/
def readCommand (command : CommandName) (given : Given) : List String → Except Stop Given
  | [] => .ok given
  | word :: words =>
    if word = "--" then readFiles given words
    else if isPlainWord word then do readCommand command (← given.setFile word) words
    else do
      match ← readSwitches (some command) given word, words with
      | .done given, words => readCommand command given words
      | .wants given setting, value :: words =>
        if isPlainWord value then readCommand command (← given.setSetting value setting) words
        else throw .usage
      | .wants _ _, [] => throw .usage

/-- What is given before and after the name of the command. -/
structure Words where
  program : Given
  command : CommandName
  argument : Given
  deriving DecidableEq, Repr

/-- Words from the beginning, with `given` read so far. -/
def readProgram (given : Given) : List String → Except Stop Words
  | [] => .error .usage
  | word :: words =>
    if isPlainWord word then
      match CommandName.ofName? word with
      | some command => do
        return { program := given, command, argument := ← readCommand command {} words }
      | none => .error .usage
    else do
      match ← readSwitches none given word, words with
      | .done given, words => readProgram given words
      | .wants given setting, value :: words =>
        if isPlainWord value then readProgram (← given.setSetting value setting) words
        else throw .usage
      | .wants _ _, [] => throw .usage

/-- What the environment says in place of options. -/
structure Environment where
  verbose : Option String := none
  noColor : Option String := none
  config : Option String := none
  deriving DecidableEq, Repr

/-- A flag from the environment is spelled out. -/
def readEnvironmentFlag : Option String → Except Stop Bool
  | none => .ok false
  | some "true" => .ok true
  | some "false" => .ok false
  | some _ => .error .usage

/-- The environment is looked at wherever a level leaves the option out, and has to fit there. -/
def flagOrEnvironment (program argument : Bool) (variableText : Option String) : Except Stop Bool :=
  if program && argument then .ok true
  else do
    let flag ← readEnvironmentFlag variableText
    return program || argument || flag

/-- The innermost of the given values, or the one in the environment. -/
def valueOrEnvironment (program argument variableText : Option String) :
    Except Stop (Option String) :=
  match program, argument with
  | some _, some value => .ok (some value)
  | _, _ =>
    if variableText = some "" then .error .usage
    else .ok (argument.or (program.or variableText))

/-- What the program is asked to do. -/
inductive Command where
  | tokens (file : Option String) (format : Option ReportFormat) (strict : Bool)
  | check (file : Option String) (strict : Bool)
  deriving DecidableEq, Repr

structure Invocation where
  verbose : Bool
  noColor : Bool
  config : Option String
  command : Command
  deriving DecidableEq, Repr

/-- The invocation that a command line asks for. -/
def readArguments (environment : Environment) (words : List String) : Except Stop Invocation := do
  let { program, command, argument } ← readProgram {} words
  return {
    verbose := ← flagOrEnvironment program.verbose argument.verbose environment.verbose
    noColor := ← flagOrEnvironment program.noColor argument.noColor environment.noColor
    config := ← valueOrEnvironment program.config argument.config environment.config
    command := match command with
      | .tokens => .tokens argument.file argument.format argument.strictComments
      | .check => .check argument.file argument.strictComments }

end ScriptLexer.CommandLine
