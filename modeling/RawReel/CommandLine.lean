import RawReel.Diagnostic

/-!
What a user asks for on the command line: one of the commands, and how much to report on the way.
-/

namespace RawReel

/-- The least urgent level that is shown; without one, nothing is. -/
abbrev Threshold := Option Level

namespace Threshold

def admits (threshold : Threshold) (level : Level) : Bool :=
  match threshold with
  | none => false
  | some least => level ≤ least

/-- Thresholds by the word that selects them. -/
def words : List (String × Threshold) :=
  [("off", none), ("error", some .error), ("warn", some .warn), ("info", some .info),
    ("debug", some .debug), ("trace", some .trace)]

end Threshold

/-- How reports are written. -/
inductive LogFormat
  | plain
  | json
  deriving DecidableEq

inductive Command
  | info (input : Path)
  | index (input : Path) (output : Option Path)
  | extract (input output : Path) (first : Nat) (count : Option Nat) (headers : Bool)
  deriving DecidableEq

structure CommandLine where
  threshold : Threshold
  format : LogFormat
  /-- Whether a warning fails the command. -/
  strict : Bool
  progress : Bool
  command : Command
  deriving DecidableEq

namespace CommandLine

/-- Reports that are as urgent as this fail the command. -/
def failLevel (line : CommandLine) : Level := if line.strict then .warn else .error

end CommandLine

/-- Why a command line selects no command. Two of them are wishes rather than faults. -/
inductive UsageError
  | help
  | version
  | nothingGiven
  | missingCommand
  | unknownCommand
  | unknownArgument
  | missingArgument
  | repeatedArgument
  | invalidValue
  | invalidNumber
  | unexpectedValue
  deriving DecidableEq

end RawReel
