import ApprovalFlow.CommandLine.EnvFile
import ApprovalFlow.CommandLine.Help
import ApprovalFlow.Config.Load
import ApprovalFlow.Report.Replay
import ApprovalFlow.Report.Settings
import ApprovalFlow.Scenario.Reader

/-!
# Running the program

What the program answers to its arguments, as a function of the environment, the files it can read
and the time. An `Answer` is what goes to the two output streams and the exit code: 0 for success,
1 when the command failed, 2 when the arguments are refused. A failure is reported in one line, and
in verbose mode its causes follow.
-/

namespace ApprovalFlow.CommandLine

/-- What the program leaves behind. -/
structure Answer where
  exitCode : UInt32
  out : String
  err : String
  deriving Repr

/-- A failed command: what failed, and why. -/
structure Failure where
  message : String
  causes : List String
  deriving DecidableEq, Repr

/-- The file of environment variables. -/
def envFileName : String := ".env"

/-- The environment with what the file of variables adds. -/
def environment (vars : EnvFile.Variables) (files : Files) : EnvFile.Variables :=
  match files.read? envFileName with
  | some content => EnvFile.apply vars content
  | none => vars

/-- The failure of loading the configuration. -/
def Failure.ofLoadError (e : Config.LoadError) : Failure :=
  ⟨e.message, []⟩

/-- The names of a family's events, as a list in a message. -/
def eventChoices : Family → String
  | .process => choices ProcessEvent.all ProcessEvent.name
  | .task => choices TaskEvent.all TaskEvent.name
where
  /-- Names between backticks, with commas between them. -/
  choices {ε : Type} (events : List ε) (name : ε → String) : String :=
    String.intercalate ", " (events.map fun event => "`" ++ name event ++ "`")

/-- The failure of building a scenario. -/
def Failure.ofScenarioError (e : ScenarioError) : Failure :=
  match e with
  | .unknownEvent _ family event =>
    ⟨e.message,
      ["unknown variant `" ++ Text.toUpper event ++ "`, expected one of " ++
        eventChoices family]⟩
  | e => ⟨e.message, []⟩

/-- The failure of a replay. -/
def Failure.ofReplay (f : ReplayFailure) : Failure :=
  match f.halt with
  | .failed e => ⟨"step " ++ f.step ++ " failed", [e.message]⟩
  | .endless => ⟨"step " ++ f.step ++ " does not come to an end", []⟩

/-- Loads the configuration. -/
def loadConfig (vars : EnvFile.Variables) (files : Files) (file : Option String) :
    Except Failure WorkflowConfig :=
  match file with
  | some file => (Config.loadFile files file vars).mapError .ofLoadError
  | none => (Config.loadEnvironment Config.standardWord vars).mapError .ofLoadError

/-- Reads a scenario. -/
def loadScenario (files : Files) (name : String) : Except Failure Scenario :=
  match files.read name with
  | .error e => .error ⟨"cannot read scenario " ++ name, [e.message]⟩
  | .ok content =>
    match Scenario.ofText content with
    | some scenario => .ok scenario
    | none => .error ⟨"invalid scenario " ++ name, []⟩

/-- Replays a scenario file. -/
def replayFile (config : WorkflowConfig) (files : Files) (name : String) (now : Instant) :
    Except Failure ReplayReport := do
  let scenario ← loadScenario files name
  let built ← (scenario.build now).mapError .ofScenarioError
  ((built.replay config now).run built.actions).mapError .ofReplay

/-- Runs a command; what goes to the output. -/
def perform (vars : EnvFile.Variables) (files : Files) (now : Instant) (o : Options) :
    Command → Except Failure String
  | .replay scenario => do
    let config ← loadConfig vars files o.config
    return (← replayFile config files scenario now).shown o.format
  | .showConfig => do
    let config ← loadConfig vars files o.config
    return config.shown o.config o.format

/-- The report of a failure. -/
def Failure.report (f : Failure) (verbose : Bool) : String :=
  Report.ofLines
    (("Error: " ++ f.message) :: if verbose then f.causes.map ("Caused by: " ++ ·) else [])

/-- The text of the version. -/
def versionText : String :=
  programName ++ " 0.1.0\n"

/-- The report on refused arguments. -/
def usageReport (e : UsageError) : String :=
  Report.ofLines
    ["error: " ++ e.message, "", "Usage: " ++ programName ++ " [OPTIONS] <COMMAND>", "",
      "For more information, try '--help'."]

/-- What the program answers in an environment that is complete. -/
def answer (vars : EnvFile.Variables) (files : Files) (now : Instant) (args : List String) :
    Answer :=
  match parse vars args with
  | .error e => ⟨2, "", usageReport e⟩
  | .ok .version => ⟨0, versionText, ""⟩
  | .ok (.help topic full) => ⟨0, helpText vars topic full, ""⟩
  | .ok (.run o command) =>
    match perform vars files now o command with
    | .ok out => ⟨0, out, ""⟩
    | .error f => ⟨1, "", f.report o.verbose⟩

/-- What the program answers. -/
def run (vars : EnvFile.Variables) (files : Files) (now : Instant) (args : List String) : Answer :=
  answer (environment vars files) files now args

/-- The names of the files that the program may read, besides that of variables. -/
def filesNeeded (vars : EnvFile.Variables) (args : List String) : List String :=
  match parse vars args with
  | .ok (.run o command) =>
    (match o.config with
      | some file => [file, file ++ "." ++ Config.extension]
      | none => []) ++
      (match command with
        | .replay scenario => [scenario]
        | .showConfig => [])
  | _ => []

end ApprovalFlow.CommandLine
