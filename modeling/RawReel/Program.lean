import RawReel.Command
import RawReel.CommandLine.Parse
import RawReel.LogFilter
import RawReel.LogLine

/-!
The program as a whole: from its arguments and the files it is run on to its exit code, what it
prints, and the files it leaves behind.
-/

namespace RawReel

/-- What is given to the program. -/
structure Invocation where
  arguments : List String
  /-- Which reports are to be shown, as the environment tells it. -/
  filter : Option String
  /-- The time as reports show it. -/
  time : String
  tree : FileTree

structure Completion where
  exitCode : Nat
  output : String
  errorLines : List String
  tree : FileTree

namespace Program

def name : String := "rawmd"

def version : String := "0.1.0"

/-- A failure below another: its lines, the first one with its number if there are several. -/
def causeLines (number : Option Nat) (cause : String) : List String :=
  let first := number.elim "    " fun n => Text.padStart 5 ' ' (toString n) ++ ": "
  let further := number.elim "    " fun _ => "       "
  (cause.toList.splitOn '\n').mapIdx fun n line =>
    (if n = 0 then first else further) ++ String.ofList line

/-- What is printed when a command fails. -/
def failureLines (message : String) (causes : List String) : List String :=
  (("Error: " ++ message).toList.splitOn '\n').map String.ofList ++
    match causes with
    | [] => []
    | [cause] => "" :: "Caused by:" :: causeLines none cause
    | causes =>
      "" :: "Caused by:" :: (causes.mapIdx fun n cause => causeLines (some n) cause).flatten

/-- The lines of a text that may have several. -/
def textLines (s : String) : List String := (s.toList.splitOn '\n').map String.ofList

/-- The filter that the environment and the command line ask for, and the warnings about it. -/
def filterFor (spec : Option String) (line : CommandLine) : LogFilter × List FilterWarning :=
  let (filter, warnings) := (spec.map LogFilter.parse).getD (.empty, [])
  (filter.setDefault line.threshold, warnings)

/-- Is a report shown? Beside a progress bar, no part shows more than those without a threshold of
their own. -/
def shows (filter : LogFilter) (progress : Bool) (d : Diagnostic) : Bool :=
  filter.admits d && (!progress || (filter.thresholdOf "").admits d.level)

/-- Runs the command that a command line asks for. -/
def perform (invocation : Invocation) (line : CommandLine) : Completion :=
  let (filter, warnings) := filterFor invocation.filter line
  let outcome := line.run invocation.tree
  let shown := outcome.log.filter (shows filter line.progress)
  let reports := shown.map (LogLine.render line.format invocation.time)
  let failure := match outcome.result with
    | .ok _ => []
    | .error e => failureLines e.message e.causes
  { exitCode := if outcome.result.toOption.isSome then 0 else 1
    output := outcome.output
    errorLines := (warnings.map (·.line) ++ reports).flatMap textLines ++ failure
    tree := outcome.tree }

def usage : String :=
  "Usage: " ++ name ++ " [OPTIONS] <info|index|extract> INPUT\n"

/-- What answers a command line that selects no command. -/
def refuse (tree : FileTree) (e : UsageError) : Completion :=
  match e with
  | .version => ⟨0, name ++ " " ++ version ++ "\n", [], tree⟩
  | .help => ⟨0, usage, [], tree⟩
  | _ => ⟨2, "", [usage], tree⟩

def run (invocation : Invocation) : Completion :=
  match CommandLine.parse invocation.arguments with
  | .ok line => perform invocation line
  | .error e => refuse invocation.tree e

end Program

end RawReel
