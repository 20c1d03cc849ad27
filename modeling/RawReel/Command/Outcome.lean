import RawReel.Diagnostic
import RawReel.FileTree

/-!
What a command leaves behind: the files as they are afterwards, what it printed, what it reported,
and whether it failed.
-/

namespace RawReel

/-- A command fails with an error of the reader, or with a failure of its own. -/
inductive CommandError
  | read (cause : ReadError)
  | own (failure : Failure)
  deriving DecidableEq

namespace CommandError

def message : CommandError → String
  | read cause => cause.message
  | own failure => failure.message

def causes : CommandError → List String
  | read cause => cause.causes
  | own failure => failure.causes

end CommandError

structure CommandOutcome where
  tree : FileTree
  output : String
  log : Log
  result : Except CommandError Unit

end RawReel
