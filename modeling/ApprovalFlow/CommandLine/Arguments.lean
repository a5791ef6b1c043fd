import ApprovalFlow.Report.Format

/-!
# Arguments

The options come first, then the command with its own arguments. An option is known by a long name
and some also by a letter; its value follows as the next argument or is written behind it. Letters
may be joined behind one dash. Every option may be given once, and two of them take their value from
the environment when they are not given. A request for help is granted as soon as it is read,
whatever is wrong behind it or in the environment. Where it is made behind a command, the last value
before the command may be wrong as well: a value that is an argument of its own is looked at no
sooner than another option follows or everything is read.
-/

namespace ApprovalFlow.CommandLine

/-- The options. -/
inductive OptionName where
  | format
  | verbose
  | noColor
  | logLevel
  | jsonLogs
  | config
  | help
  | version
  deriving DecidableEq, Repr, Inhabited

namespace OptionName

/-- Every option. -/
def all : List OptionName :=
  [format, verbose, noColor, logLevel, jsonLogs, config, help, version]

/-- The long name. -/
def long : OptionName → String
  | format => "format"
  | verbose => "verbose"
  | noColor => "no-color"
  | logLevel => "log-level"
  | jsonLogs => "json-logs"
  | config => "config"
  | help => "help"
  | version => "version"

/-- The letter, of those options that have one. -/
def letter : OptionName → Option Char
  | format => some 'f'
  | verbose => some 'v'
  | config => some 'c'
  | help => some 'h'
  | version => some 'V'
  | noColor | logLevel | jsonLogs => none

/-- Whether the option has a value. -/
def takesValue : OptionName → Bool
  | format | logLevel | config => true
  | _ => false

/-- The variable that stands in for an option that is not given. -/
def variableName : OptionName → Option String
  | logLevel => some "INLONG_LOG_LEVEL"
  | config => some "INLONG_CONFIG"
  | _ => none

end OptionName

/-- The commands, and the parts of the program that help is given on. -/
inductive Topic where
  | program
  | replay
  | config
  | showConfig
  /-- The command that gives help. -/
  | help
  /-- The command that gives help on the configuration. -/
  | configHelp
  deriving DecidableEq, Repr, Inhabited

/-- What a name stands for behind the names of a topic. -/
def Topic.below : Topic → String → Option Topic
  | program, "replay" => some replay
  | program, "config" => some config
  | program, "help" => some help
  | config, "show" => some showConfig
  | config, "help" => some configHelp
  | _, _ => none

/-- Why arguments are refused. -/
inductive UsageError where
  /-- No command is given. -/
  | noCommand
  /-- A command or an argument is not known there. -/
  | unexpected (argument : String)
  /-- An option comes without its value, or a flag with one. -/
  | badValue (option : String)
  /-- An option is given twice. -/
  | repeated (option : String)
  /-- A required argument is missing. -/
  | missing (argument : String)
  deriving DecidableEq, Repr

/-- The message shown to people. -/
def UsageError.message : UsageError → String
  | noCommand => "a command is required"
  | unexpected argument => "unexpected argument '" ++ argument ++ "'"
  | badValue option => "invalid or missing value for '--" ++ option ++ "'"
  | repeated option => "'--" ++ option ++ "' cannot be used multiple times"
  | missing argument => "the argument <" ++ argument ++ "> is required"

/-- The options as given, each at most once. -/
abbrev Given := List (OptionName × String)

/-- An option whose value is still to be looked at. -/
abbrev Pending := Option (OptionName × String)

/-- The value of an option. -/
def Given.get? (g : Given) (name : OptionName) : Option String :=
  (g.find? (·.1 == name)).map (·.2)

/-- What is asked for. -/
inductive Command where
  | replay (scenario : String)
  | showConfig
  deriving DecidableEq, Repr

/-- The settings that the options make. -/
structure Options where
  format : OutputFormat
  verbose : Bool
  noColor : Bool
  logLevel : String
  jsonLogs : Bool
  config : Option String
  deriving DecidableEq, Repr

/-- What the arguments ask for. -/
inductive Request where
  | run (options : Options) (command : Command)
  /-- Help on a topic, in full or in short. -/
  | help (topic : Topic) (full : Bool)
  | version
  deriving DecidableEq, Repr

/-- What reading options comes to. -/
inductive Scan where
  /-- The options read, the last of them apart if its value is still to be looked at, and the
  arguments behind them. -/
  | options (given : Given) (last : Pending) (rest : List String)
  /-- A request that needs nothing more. -/
  | request (r : Request)

/-- Whether an option accepts a value. -/
def accepts (name : OptionName) (value : String) : Bool :=
  match name with
  | .format => OutputFormat.all.any (·.name == value)
  | .config => value != ""
  | _ => true

/-- Adds an option. -/
def Given.add (g : Given) (name : OptionName) (value : String) : Except UsageError Given :=
  if !accepts name value then .error (.badValue name.long)
  else if (g.get? name).isSome then .error (.repeated name.long)
  else .ok (g ++ [(name, value)])

/-- Looks at the value that is left to be looked at. -/
def Given.settle (g : Given) : Pending → Except UsageError Given
  | none => .ok g
  | some (name, value) => g.add name value

/-- Whether an argument looks like an option and so cannot be a value. -/
def looksLikeOption (arg : String) : Bool :=
  match arg.toList with
  | '-' :: _ :: _ => true
  | _ => false

/-- The letters behind a dash, from left to right. An option with a value takes the letters that are
left, less an equals sign; if none are, the value is the next argument. -/
def scanLetters (g : Given) : List Char → List String → Except UsageError Scan
  | [], rest => .ok (.options g none rest)
  | c :: cs, rest =>
    match OptionName.all.find? (·.letter == some c) with
    | none => .error (.unexpected (String.ofList ['-', c]))
    | some .help => .ok (.request (.help .program false))
    | some .version => .ok (.request .version)
    | some name =>
      if name.takesValue then
        match cs, rest with
        | [], value :: rest =>
          if looksLikeOption value then .error (.badValue name.long)
          else .ok (.options g (some (name, value)) rest)
        | [], [] => .error (.badValue name.long)
        | cs, rest =>
          let value := if cs.head? == some '=' then cs.drop 1 else cs
          (g.add name (String.ofList value)).map fun g => .options g none rest
      else do
        let g ← g.add name ""
        scanLetters g cs rest

/-- A long option, with the value that is written behind an equals sign. -/
def scanLong (g : Given) (name : List Char) (written : Option (List Char)) (rest : List String) :
    Except UsageError Scan :=
  match OptionName.all.find? (·.long.toList == name) with
  | none => .error (.unexpected (String.ofList ('-' :: '-' :: name)))
  | some option =>
    if option.takesValue then
      match written, rest with
      | some value, rest =>
        (g.add option (String.ofList value)).map fun g => .options g none rest
      | none, value :: rest =>
        if looksLikeOption value then .error (.badValue option.long)
        else .ok (.options g (some (option, value)) rest)
      | none, [] => .error (.badValue option.long)
    else if written.isSome then .error (.badValue option.long)
    else
      match option with
      | .help => .ok (.request (.help .program true))
      | .version => .ok (.request .version)
      | flag => (g.add flag "").map fun g => .options g none rest

/-- Reads one option off the arguments. -/
def scanOption (g : Given) (arg : String) (rest : List String) : Except UsageError Scan :=
  match arg.toList with
  | '-' :: '-' :: name =>
    let before := name.takeWhile (· != '=')
    let written := match name.dropWhile (· != '=') with
      | '=' :: value => some value
      | _ => none
    scanLong g before written rest
  | '-' :: letters => scanLetters g letters rest
  | _ => .error (.unexpected arg)

/-- Reads options up to the command. Each takes an argument at least, so as many steps as there are
arguments are enough. -/
def scanOptions : Nat → Given → Pending → List String → Except UsageError Scan
  | 0, g, last, args => .ok (.options g last args)
  | _ + 1, g, last, [] => .ok (.options g last [])
  | fuel + 1, g, last, arg :: rest =>
    if arg = "--" then
      match rest with
      | [] => .error .noCommand
      | arg :: _ => .error (.unexpected arg)
    else if looksLikeOption arg then do
      match ← scanOption (← g.settle last) arg rest with
      | .request r => return .request r
      | .options g last rest => scanOptions fuel g last rest
    else .ok (.options g last (arg :: rest))

/-- What is asked for from the command on. -/
inductive Wish where
  | command (c : Command)
  /-- Help on a topic, in full or in short. -/
  | help (topic : Topic) (full : Bool)
  deriving DecidableEq, Repr

/-- Whether an argument asks for help, and whether for all of it. Letters behind the one that asks
are not looked at. -/
def helpFlag (arg : String) : Option Bool :=
  if arg = "--help" then some true
  else
    match arg.toList with
    | '-' :: 'h' :: _ => some false
    | _ => none

/-- What a command without arguments of its own makes of what follows it. -/
def noArguments (topic : Topic) (command : Command) : List String → Except UsageError Wish
  | [] => .ok (.command command)
  | arg :: rest =>
    match helpFlag arg with
    | some full => .ok (.help topic full)
    | none =>
      if arg = "--" then
        match rest with
        | [] => .ok (.command command)
        | arg :: _ => .error (.unexpected arg)
      else .error (.unexpected arg)

/-- The argument of a replay: the scenario's file. Behind two dashes everything is an argument. -/
def replayWish (scenario : Option String) (literal : Bool) :
    List String → Except UsageError Wish
  | [] =>
    match scenario with
    | some file => .ok (.command (.replay file))
    | none => .error (.missing "SCENARIO")
  | arg :: rest =>
    if !literal && arg == "--" then replayWish scenario true rest
    else
      match if literal then none else helpFlag arg with
      | some full => .ok (.help .replay full)
      | none =>
        if (!literal && looksLikeOption arg) || scenario.isSome then .error (.unexpected arg)
        else if arg = "" then .error (.badValue "scenario")
        else replayWish (some arg) literal rest

/-- The help that names ask for behind those of a topic. -/
def helpWish (topic : Topic) : List String → Except UsageError Wish
  | [] => .ok (.help topic true)
  | name :: rest =>
    match topic.below name with
    | some topic => helpWish topic rest
    | none => .error (.unexpected name)

/-- What follows the command on the configuration. -/
def configWish : List String → Except UsageError Wish
  | [] => .error .noCommand
  | "show" :: rest => noArguments .showConfig .showConfig rest
  | "help" :: rest => helpWish .config rest
  | arg :: _ =>
    match helpFlag arg with
    | some full => .ok (.help .config full)
    | none => .error (.unexpected arg)

/-- What is asked for by a command and what follows it. -/
def wishOf (command : String) (rest : List String) : Except UsageError Wish :=
  match command with
  | "help" => helpWish .program rest
  | "replay" => replayWish none false rest
  | "config" => configWish rest
  | command => .error (.unexpected command)

/-- The value of an option: given, or from the environment. -/
def valueOf (vars : List (String × String)) (g : Given) (name : OptionName) :
    Except UsageError (Option String) :=
  match g.get? name with
  | some value => .ok (some value)
  | none =>
    match name.variableName.bind fun v => (vars.find? (·.1 == v)).map (·.2) with
    | none => .ok none
    | some value => if accepts name value then .ok (some value) else .error (.badValue name.long)

/-- The level of log records unless one is given. -/
def standardLogLevel : String := "warn"

/-- The options from what is given and from the environment. -/
def optionsOf (vars : List (String × String)) (g : Given) : Except UsageError Options := do
  let format := (g.get? .format).bind fun name => OutputFormat.all.find? (·.name == name)
  return {
    format := format.getD .text
    verbose := (g.get? .verbose).isSome
    noColor := (g.get? .noColor).isSome
    logLevel := (← valueOf vars g .logLevel).getD standardLogLevel
    jsonLogs := (g.get? .jsonLogs).isSome
    config := ← valueOf vars g .config }

/-- What arguments ask for, given the environment. -/
def parse (vars : List (String × String)) (args : List String) : Except UsageError Request := do
  match ← scanOptions (args.length + 1) [] none args with
  | .request r => return r
  | .options _ _ [] => throw .noCommand
  | .options g last (name :: rest) =>
    match ← wishOf name rest with
    | .help topic full => return .help topic full
    | .command c => return .run (← optionsOf vars (← g.settle last)) c

end ApprovalFlow.CommandLine
