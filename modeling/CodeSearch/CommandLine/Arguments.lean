import CodeSearch.Number.Literal

/-!
# Arguments of the command line

The first argument that is no option names a command; options and words after it belong to the
command. `--config` may stand before and after the name. After `--` every argument is a word.

- `Argument.of`: what an argument looks like.
- `Command`: a command with everything that was given for it.
- `Request.ofArguments`: what a list of arguments asks for.
-/

namespace CodeSearch.CommandLine

/-! ## Single arguments -/

/-- What an argument looks like. -/
inductive Argument where
  /-- The argument `--`, after which there are no options. -/
  | endOfOptions
  /-- An option, and the value after its equals sign. -/
  | option (name : String) (value : Option String)
  /-- One letter or more after a single dash. -/
  | letters (letters : List Char)
  | word (text : String)
  deriving DecidableEq, Repr

/-- What an argument looks like. A dash alone is a word. -/
def Argument.of (argument : String) : Argument :=
  match argument.toList with
  | ['-', '-'] => .endOfOptions
  | '-' :: '-' :: rest =>
    let name := String.ofList (rest.takeWhile (· != '='))
    match rest.dropWhile (· != '=') with
    | _ :: value => .option name (some (String.ofList value))
    | [] => .option name none
  | '-' :: first :: rest => .letters (first :: rest)
  | _ => .word argument

/-! ## Commands -/

/-- A command with everything that was given for it. -/
inductive Command where
  | index (path apiKey : Option String)
  | search (query : String) (limit : Option UInt64) (threshold : Option Single)
  | keyword (keyword : String) (limit : Option UInt64)
  | statistics
  | interactive
  deriving DecidableEq, Repr

/-- The commands. -/
inductive CommandName where
  | index
  | search
  | keyword
  | statistics
  | interactive
  deriving DecidableEq, Repr

namespace CommandName

def name : CommandName → String
  | .index => "index"
  | .search => "search"
  | .keyword => "keyword"
  | .statistics => "stats"
  | .interactive => "interactive"

/-- Every command, in the order in which help lists them. -/
def all : List CommandName := [.index, .search, .keyword, .statistics, .interactive]

/-- The command with the given name. -/
def ofText? (text : String) : Option CommandName :=
  all.find? fun command => command.name == text

/-- The largest number of words that a command takes. -/
def maxWords : CommandName → Nat
  | .index => 2
  | .search => 1
  | .keyword => 1
  | .statistics => 0
  | .interactive => 0

/-- The names of the options of a command. -/
def options : CommandName → List String
  | .search => ["config", "limit", "threshold"]
  | .keyword => ["config", "limit"]
  | _ => ["config"]

end CommandName

/-- Why arguments are refused. -/
inductive UsageError where
  | noCommand
  | unknownCommand (name : String)
  | unknownArgument (argument : String)
  | missingValue (option : String)
  | unexpectedValue (option : String)
  | badValue (option value : String)
  | repeated (option : String)
  | missingWord (command : CommandName)
  deriving DecidableEq, Repr

def UsageError.message : UsageError → String
  | .noCommand => "a command is required but none was given"
  | .unknownCommand name => "unrecognized command '" ++ name ++ "'"
  | .unknownArgument argument => "unexpected argument '" ++ argument ++ "'"
  | .missingValue option => "a value is required for '--" ++ option ++ "' but none was given"
  | .unexpectedValue option => "unexpected value for '--" ++ option ++ "'"
  | .badValue option value => "invalid value '" ++ value ++ "' for '" ++ option ++ "'"
  | .repeated option => "the argument '--" ++ option ++ "' cannot be used more than once"
  | .missingWord command => "'" ++ command.name ++ "' needs an argument"

/-! ## Arguments of a command -/

/-- What was given for a command. -/
structure Given where
  config : Option String := none
  limit : Option UInt64 := none
  threshold : Option Single := none
  words : List String := []
  deriving DecidableEq, Repr, Inhabited

/-- A number from 0 to `2 ^ 64 - 1`, with an optional plus sign. -/
def readLimit? (text : String) : Option UInt64 :=
  let digits :=
    match text.toList with
    | '+' :: rest => rest
    | digits => digits
  if digits.isEmpty || !digits.all Char.isDigit then none
  else
    let value := Text.readDecimal digits
    if value < 0x10000000000000000 then some (UInt64.ofNat value) else none

namespace Given

/-- Sets a field that may be set once. -/
def once {α : Type} (option : String) (field : Option α) (value : α) :
    Except UsageError (Option α) :=
  if field.isSome then .error (.repeated option) else .ok (some value)

/-- The value that was read, or the refusal of the text that it was to be read from. -/
def read {α : Type} (option text : String) (value : Option α) : Except UsageError α :=
  match value with
  | some value => .ok value
  | none => .error (.badValue option text)

/-- Sets an option. -/
def set (given : Given) (option value : String) : Except UsageError Given := do
  match option with
  | "config" => return { given with config := ← once option given.config value }
  | "limit" =>
    let limit ← read option value (readLimit? value)
    return { given with limit := ← once option given.limit limit }
  | "threshold" =>
    let threshold ← read option value (Single.ofText? value)
    return { given with threshold := ← once option given.threshold threshold }
  | _ => throw (.unknownArgument option)

/-- Adds a word. A command takes only so many, and the path to be indexed is not empty. -/
def addWord (given : Given) (command : CommandName) (word : String) : Except UsageError Given :=
  if command.maxWords ≤ given.words.length then .error (.unknownArgument word)
  else if command = .index && given.words.isEmpty && word = "" then .error (.badValue "path" word)
  else .ok { given with words := given.words ++ [word] }

/-- Adds words. -/
def addWords (given : Given) (command : CommandName) (words : List String) :
    Except UsageError Given :=
  words.foldlM (fun given word => given.addWord command word) given

/-- The command with what was given for it. -/
def command (given : Given) (name : CommandName) : Except UsageError Command :=
  match name, given.words with
  | .index, words => .ok (.index words[0]? words[1]?)
  | .search, query :: _ => .ok (.search query given.limit given.threshold)
  | .search, [] => .error (.missingWord .search)
  | .keyword, keyword :: _ => .ok (.keyword keyword given.limit)
  | .keyword, [] => .error (.missingWord .keyword)
  | .statistics, _ => .ok .statistics
  | .interactive, _ => .ok .interactive

end Given

/-- What was given for a command, or none if help is asked for on the way. A value of its own may
not look like an option. -/
def readGiven (command : CommandName) (given : Given) :
    List String → Except UsageError (Option Given)
  | [] => .ok (some given)
  | argument :: rest =>
    match Argument.of argument with
    | .endOfOptions => (given.addWords command rest).map some
    | .word word => do readGiven command (← given.addWord command word) rest
    | .letters letters =>
      if letters.head? = some 'h' then .ok none else .error (.unknownArgument argument)
    | .option "help" none => .ok none
    | .option "help" (some _) => .error (.unexpectedValue "help")
    | .option option (some value) =>
      if command.options.contains option then do
        readGiven command (← given.set option value) rest
      else .error (.unknownArgument argument)
    | .option option none =>
      if !command.options.contains option then .error (.unknownArgument argument)
      else
        match rest with
        | [] => .error (.missingValue option)
        | value :: rest =>
          match Argument.of value with
          | .word value => do readGiven command (← given.set option value) rest
          | _ => .error (.missingValue option)

/-! ## All arguments -/

/-- What help is about. -/
inductive HelpTopic where
  | program
  | command (command : CommandName)
  | help
  deriving DecidableEq, Repr

/-- What arguments ask for. -/
inductive Request where
  /-- To run a command with the configuration at a path; the path may be empty. -/
  | run (configPath : String) (command : Command)
  | version
  | help (topic : HelpTopic)
  deriving DecidableEq, Repr

namespace Request

/-- The command `command`, with the configuration that was named before it. -/
def ofCommand (config : Option String) (command : CommandName) (arguments : List String) :
    Except UsageError Request := do
  match ← readGiven command {} arguments with
  | none => return .help (.command command)
  | some given => return .run ((given.config.or config).getD "") (← given.command command)

/-- Help on what is named, or on the program. -/
def ofHelp : List String → Except UsageError Request
  | [] => .ok (.help .program)
  | ["help"] => .ok (.help .help)
  | [name] =>
    match CommandName.ofText? name with
    | some command => .ok (.help (.command command))
    | none => .error (.unknownCommand name)
  | _ :: name :: _ => .error (.unknownCommand name)

/-- What arguments ask for, when `config` was named as the configuration before them. -/
def ofArgumentsAfter (config : Option String) : List String → Except UsageError Request
  | [] => .error .noCommand
  | argument :: rest =>
    match Argument.of argument with
    | .endOfOptions => .error .noCommand
    | .word "help" => ofHelp rest
    | .word word =>
      match CommandName.ofText? word with
      | some command => ofCommand config command rest
      | none => .error (.unknownCommand word)
    | .letters letters =>
      if letters.head? = some 'h' then .ok (.help .program)
      else if letters.head? = some 'V' then .ok .version
      else .error (.unknownArgument argument)
    | .option "help" none => .ok (.help .program)
    | .option "version" none => .ok .version
    | .option "config" (some value) => do
      ofArgumentsAfter (← Given.once "config" config value) rest
    | .option "config" none =>
      match rest with
      | [] => .error (.missingValue "config")
      | value :: rest =>
        match Argument.of value with
        | .word value => do ofArgumentsAfter (← Given.once "config" config value) rest
        | _ => .error (.missingValue "config")
    | .option _ _ => .error (.unknownArgument argument)

/-- What arguments ask for. -/
def ofArguments (arguments : List String) : Except UsageError Request :=
  ofArgumentsAfter none arguments

-- the configuration named last wins
example : (ofArguments ["--config", "a.json", "stats", "--config=b.json"]).toOption =
    some (.run "b.json" .statistics) := by decide +kernel

-- what looks like an option is no value, unless it is attached
example : (ofArguments ["search", "q", "--threshold", "-1"]).toOption = none := by decide +kernel
example : (ofArguments ["search", "q", "--threshold=-1"]).toOption =
    some (.run "" (.search "q" none (some ⟨0xBF800000⟩))) := by decide +kernel

-- after `--` there are only words
example : (ofArguments ["search", "--", "--limit"]).toOption =
    some (.run "" (.search "--limit" none none)) := by decide +kernel

end Request

end CodeSearch.CommandLine
