import ApprovalFlow.CommandLine.Run
import Std.Time.DateTime.Timestamp

/-!
# The program

Reads the environment, the clock and the files that the arguments name, and prints what
`CommandLine.run` answers.
-/

namespace ApprovalFlow.CommandLine

/-- The reading of the clock. -/
def readClock : IO Instant := do
  let t ← Std.Time.Timestamp.now
  let nanos := t.toNanosecondsSinceUnixEpoch.toInt
  let unit : Int := Instant.nanosPerSecond
  return ⟨nanos.fdiv unit, (nanos.fmod unit).toNat⟩

/-- The text of a file, if it can be read. -/
def readText? (name : String) : IO (Option String) :=
  try
    return some (← IO.FS.readFile name)
  catch _ => return none

/-- The file in which the system keeps the environment of the running program. -/
def environmentFile : String := "/proc/self/environ"

/-- The environment of the program. -/
def readEnvironment : IO EnvFile.Variables := do
  let content := (← readText? environmentFile).getD ""
  return (Text.parts '\x00' content).filterMap fun entry =>
    match Text.parts '=' entry with
    | name :: value :: more => some (name, String.intercalate "=" (value :: more))
    | _ => none

/-- The texts of those of some files that can be read. -/
def readFiles (names : List String) : IO Files := do
  let texts ← names.mapM readText?
  return (names.zip texts).filterMap fun file => file.2.map (file.1, ·)

/-- Answers the arguments. -/
def execute (args : List String) : IO UInt32 := do
  let vars ← readEnvironment
  let own ← readFiles [envFileName]
  let files ← readFiles (filesNeeded (environment vars own) args)
  let answer := run vars (own ++ files) (← readClock) args
  (← IO.getStdout).putStr answer.out
  (← IO.getStderr).putStr answer.err
  return answer.exitCode

end ApprovalFlow.CommandLine

/-- Runs the program. -/
def main (args : List String) : IO UInt32 :=
  ApprovalFlow.CommandLine.execute args
