import RawReel.Error
import RawReel.FileSet
import RawReel.FileTree.OpenFile

/-!
The chunks that a recording is split into. The first is `NAME.RAW`; then come `NAME.R00`,
`NAME.R01` and so on, up to the first number for which there is no file. Any chunk can stand for
the recording, and the letter case of its extension is that of all chunks.
-/

namespace RawReel.Chunk

/-- The most chunks that can follow the first. -/
def maxContinuations : Nat := 100

def firstExtension : List Char := ['R', 'A', 'W']

/-- The extension of continuation `n`. -/
def continuationExtension (n : Nat) : List Char := 'R' :: (Text.paddedNat 2 n).toList

/-- Is it `RAW`, or `R` and two digits, in any letter case? -/
def isExtension (extension : List Char) : Bool :=
  extension.map Char.toUpper == firstExtension ||
    match extension with
    | [r, tens, ones] => (r == 'R' || r == 'r') && tens.isDigit && ones.isDigit
    | _ => false

/-- The input with another chunk extension, in small letters unless the input's extension has a
capital letter. -/
def respell (input : Path) (extension : List Char) : Path :=
  if (input.extension?.getD []).any Char.isUpper then input.withExtension extension
  else input.withExtension (extension.map Char.toLower)

/-- The paths of the chunks that follow the first, in order, whether or not they exist. -/
def continuations (input : Path) : List Path :=
  (List.range maxContinuations).map fun n => respell input (continuationExtension n)

def notAChunk (input : Path) : Failure :=
  ⟨input.text ++ " is not a RAW recording chunk (expected .RAW or .R00-.R99)", []⟩

def firstMissing (first : Path) : Failure := ⟨"First chunk " ++ first.text ++ " not found", []⟩

/-- All chunks of the recording that `input` is a chunk of, in order. -/
def paths (tree : FileTree) (input : Path) : Except Failure (List Path) :=
  if isExtension (input.extension?.getD []) then
    let first := respell input firstExtension
    if tree.isFile first then .ok (first :: (continuations input).takeWhile tree.isFile)
    else .error (firstMissing first)
  else .error (notAChunk input)

/-- Opens files in the given order; the first that cannot be opened fails all. -/
def openPaths (tree : FileTree) (paths : List Path) : Except IoError (FileSet OpenFile) := do
  FileSet.ofStreams (← paths.mapM tree.openFile)

/-- A recording that was found: the paths of its chunks, and the chunks themselves. -/
structure Recording where
  paths : List Path
  files : FileSet OpenFile

/-- Finds and opens the chunks of a recording. -/
def openRecording (tree : FileTree) (input : Path) : Logged (Except Failure Recording) :=
  match paths tree input with
  | .error e => ⟨.error e, []⟩
  | .ok found =>
    { value :=
        match openPaths tree found with
        | .ok files => .ok ⟨found, files⟩
        | .error e => .error ⟨"Failed to open recording " ++ input.text, [e.text]⟩
      log := [.chunksFound found.length input] }

end RawReel.Chunk
