import ApprovalFlow.CommandLine.Arguments
import ApprovalFlow.Text.Parts

/-!
# Help

The help on the program and on its commands. In short every option has a line of its own; in full
the program is described at length, and every option has a paragraph.
-/

namespace ApprovalFlow.CommandLine

/-- The name of the program. -/
def programName : String := "inlong-workflow"

/-- An entry of a list: a term and what it means. -/
structure Entry where
  term : String
  meaning : String
  /-- Remarks on values, each in brackets. -/
  notes : List String

namespace Entry

/-- A text whose further lines begin behind an indentation. -/
def hanging (indentation s : String) : String :=
  String.intercalate ("\n" ++ indentation) (Text.parts '\n' s)

/-- The entry on one line, the term filled up to a width. -/
def shortLine (width : Nat) (e : Entry) : String :=
  "  " ++ e.term ++ "".pushn ' ' (width - e.term.length) ++ "  " ++
    hanging ("".pushn ' ' (width + 4)) (String.intercalate " " (e.meaning :: e.notes))

/-- The indentation of a paragraph. -/
def margin : String := "          "

/-- The entry as a paragraph. -/
def paragraph (e : Entry) : List String :=
  ["  " ++ e.term, margin ++ e.meaning] ++
    (if e.notes.isEmpty then [] else margin :: e.notes.map (margin ++ hanging margin ·))

end Entry

/-- A list of entries, a line each. -/
def shortLines (entries : List Entry) : List String :=
  let width := (entries.map (·.term.length)).foldl max 0
  entries.map (·.shortLine width)

/-- A list of entries, a paragraph each, with empty lines between them. -/
def paragraphs : List Entry → List String
  | [] => []
  | [e] => e.paragraph
  | e :: rest => e.paragraph ++ [""] ++ paragraphs rest

/-- The entry on help itself. -/
def helpEntry (meaning : String) : Entry :=
  ⟨"-h, --help", meaning, []⟩

/-- The options of the program. -/
def programOptions (vars : List (String × String)) (full : Bool) : List Entry :=
  let variableNote (name : String) : String :=
    "[env: " ++ name ++ "=" ++ ((vars.find? (·.1 == name)).map (·.2)).getD "" ++ "]"
  [⟨"-f, --format <FORMAT>", "Output format (text, json, yaml)",
      ["[default: text]", "[possible values: text, json, yaml]"]⟩,
    ⟨"-v, --verbose", "Enable verbose output", []⟩,
    ⟨"    --no-color", "Disable colored output", []⟩,
    ⟨"    --log-level <LOG_LEVEL>", "Log filter used when RUST_LOG is unset",
      [variableNote "INLONG_LOG_LEVEL", "[default: " ++ standardLogLevel ++ "]"]⟩,
    ⟨"    --json-logs", "Emit logs as JSON", []⟩,
    ⟨"-c, --config <CONFIG>", "Configuration file; INLONG__* variables override it",
      [variableNote "INLONG_CONFIG"]⟩,
    helpEntry
      (if full then "Print help (see a summary with '-h')"
      else "Print help (see more with '--help')"),
    ⟨"-V, --version", "Print version", []⟩]

/-- What the command that gives help does. -/
def helpMeaning : String :=
  "Print this message or the help of the given subcommand(s)"

/-- The entry on the command that gives help. -/
def helpCommand : Entry :=
  ⟨"help", helpMeaning, []⟩

/-- The lists of a help text below its first line: how the command is used, then titled lists. -/
def sections (about : List String) (usage : String) (lists : List (String × List String)) :
    String :=
  Report.ofLines
    (about ++ ["", "Usage: " ++ programName ++ usage] ++
      lists.flatMap fun l => ["", l.1 ++ ":"] ++ l.2)

/-- What the program does, in one line. -/
def about : List String :=
  ["InLong workflow dispatch core"]

/-- What the program does, at length. -/
def longAbout : List String :=
  ["Drives InLong approval and resource workflows against in-memory storage.", "",
    "Use `replay` to run a scenario file through the task processors and",
    "event notifiers, then inspect the task rows and the event log."]

/-- The help on a command that gives help. -/
def helpOnHelp (usage : String) : String :=
  sections [helpMeaning] (usage ++ " [COMMAND]...")
    [("Arguments", shortLines [⟨"[COMMAND]...", "Print help for the subcommand(s)", []⟩])]

/-- The help on a topic. -/
def helpText (vars : List (String × String)) (topic : Topic) (full : Bool) : String :=
  let ownOptions := ("Options", shortLines [helpEntry "Print help"])
  match topic with
  | .program =>
    let options := programOptions vars full
    sections (if full then longAbout else about) " [OPTIONS] <COMMAND>"
      [("Commands", shortLines
          [⟨"replay", "Run a scenario file through the workflow core", []⟩,
            ⟨"config", "Configuration management", []⟩, helpCommand]),
        ("Options", if full then paragraphs options else shortLines options)]
  | .replay =>
    sections ["Run a scenario file through the workflow core"] " replay <SCENARIO>"
      [("Arguments", shortLines [⟨"<SCENARIO>", "Scenario file (YAML)", []⟩]), ownOptions]
  | .config =>
    sections ["Configuration management"] " config <COMMAND>"
      [("Commands", shortLines [⟨"show", "Show the effective configuration", []⟩, helpCommand]),
        ownOptions]
  | .showConfig => sections ["Show the effective configuration"] " config show" [ownOptions]
  | .help => helpOnHelp " help"
  | .configHelp => helpOnHelp " config help"

end ApprovalFlow.CommandLine
