/-!
Failures of the storage under a recording: a kind to branch on and a text to show.
-/

namespace RawReel

/-- What went wrong, as far as a program can react to it. -/
inductive IoErrorKind
  | notFound
  | permissionDenied
  | alreadyExists
  | notADirectory
  | isADirectory
  | invalidInput
  | invalidData
  | invalidFilename
  | unexpectedEof
  | interrupted
  | wouldBlock
  | timedOut
  | brokenPipe
  | writeZero
  | storageFull
  | unsupported
  | outOfMemory
  | other
  deriving DecidableEq

/-- One failed access to storage. -/
structure IoError where
  kind : IoErrorKind
  text : String
  deriving DecidableEq

namespace IoError

/-- An error reported by the operating system shows its number after the text. -/
def ofSystem (kind : IoErrorKind) (text : String) (number : Nat) : IoError :=
  ⟨kind, text ++ " (os error " ++ toString number ++ ")"⟩

def noSuchFile : IoError := ofSystem .notFound "No such file or directory" 2
def fileExists : IoError := ofSystem .alreadyExists "File exists" 17
def notADirectory : IoError := ofSystem .notADirectory "Not a directory" 20
def isADirectory : IoError := ofSystem .isADirectory "Is a directory" 21
def nameTooLong : IoError := ofSystem .invalidFilename "File name too long" 36

/-- No name in a file system holds the character NUL. -/
def nulInName : IoError := ⟨.invalidInput, "file name contained an unexpected NUL byte"⟩

end IoError

end RawReel
