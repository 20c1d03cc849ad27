import RawReel.Block.Tag
import RawReel.IoError

/-!
Everything that can go wrong with a recording, as causes, and the text shown for each.
-/

namespace RawReel

/-- A footer or a header that does not describe a recording. -/
inductive FormatError
  | emptyFileSet
  | truncated (available expected : Nat)
  | invalidMagic (read : FourCC)
  | invalidBlockType (expected : BlockTag) (read : FourCC)
  | invalidFrameSize (size : Int32)
  | invalidFrameRate (rate : Int32)
  | frameCountMismatch (declared : Int32) (indexed : Nat)
  | layout (cause : IoError)
  deriving DecidableEq

/-- A frame that could not be read in full. -/
inductive SizeError
  | shortRead (index file read expected : Nat)
  | missingContinuation (index files missing : Nat)
  deriving DecidableEq

/-- A request that no recording could have answered. -/
inductive BoundsError
  | outOfRange (index count : Nat)
  | notReady
  deriving DecidableEq

/-- A failure that is already text: what happened, and below it the chain of what caused it. -/
structure Failure where
  message : String
  causes : List String
  deriving DecidableEq

inductive ReadError
  | format (cause : FormatError)
  | size (cause : SizeError)
  | bounds (cause : BoundsError)
  | io (cause : IoError)
  | handler (cause : Failure)
  deriving DecidableEq

namespace FormatError

def message : FormatError → String
  | emptyFileSet => "No files were supplied for the recording"
  | truncated available expected =>
    s!"Footer truncated: only {available} of {expected} bytes available"
  | invalidMagic read => s!"Invalid footer magic. Read \"{FourCC.text read}\", expected \"RAWM\""
  | invalidBlockType expected read =>
    s!"Invalid {BlockTag.noun expected} block type. Read \"{FourCC.text read}\""
  | invalidFrameSize size => s!"frameSize must be positive. Read {size}"
  | invalidFrameRate rate => s!"sourceFpsx1000 must be positive. Read {rate}"
  | frameCountMismatch declared indexed =>
    s!"Footer declares {declared} frames but only {indexed} were found"
  | layout cause => "Malformed layout: " ++ cause.text

def causes : FormatError → List String
  | layout cause => [cause.text]
  | _ => []

end FormatError

namespace SizeError

def message : SizeError → String
  | shortRead index file read expected =>
    s!"Frame {index}: file {file} supplied {read} of {expected} bytes"
  | missingContinuation index files missing =>
    s!"Frame {index} continues past the last file ({files} files, {missing} bytes missing)"

end SizeError

namespace BoundsError

def message : BoundsError → String
  | outOfRange index count => s!"Block {index} is out of range (0..{count})"
  | notReady => "Reader is not ready"

end BoundsError

namespace ReadError

def message : ReadError → String
  | format cause => cause.message
  | size cause => cause.message
  | bounds cause => cause.message
  | io cause => "I/O error: " ++ cause.text
  | handler cause => "Block handler failed: " ++ cause.message

def causes : ReadError → List String
  | format cause => cause.causes
  | size _ => []
  | bounds _ => []
  | io cause => [cause.text]
  | handler cause => cause.message :: cause.causes

end ReadError

end RawReel
