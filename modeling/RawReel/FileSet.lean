import RawReel.Diagnostic
import RawReel.Stream

/-!
The files of one recording, in order. Their lengths are measured once, when the set is put together.
-/

namespace RawReel

/-- A stream, and how long it was when it was measured. -/
structure Member (σ : Type) where
  stream : σ
  length : Nat

structure FileSet (σ : Type) where
  members : List (Member σ)

namespace FileSet

variable {σ : Type}

def size (files : FileSet σ) : Nat := files.members.length

def isEmpty (files : FileSet σ) : Bool := files.members.isEmpty

def streams (files : FileSet σ) : List σ := files.members.map (·.stream)

def lengths (files : FileSet σ) : List Nat := files.members.map (·.length)

def length? (files : FileSet σ) (file : Nat) : Option Nat := files.lengths[file]?

def totalLength (files : FileSet σ) : Nat := files.lengths.foldr (· + ·) 0

/-- Puts a stream in place of the one of a file, whose measured length stays. -/
def setStream (files : FileSet σ) (file : Nat) (stream : σ) : FileSet σ :=
  ⟨files.members.modify file fun member => { member with stream }⟩

variable [ByteStream σ]

/-- Measures a stream and moves it back to its start. -/
def measure (stream : σ) : Except IoError (Member σ) := do
  let (found, atEnd) := ByteStream.seekEnd stream
  let length ← found
  let (outcome, atStart) := ByteStream.seek atEnd 0
  outcome
  return ⟨atStart, length⟩

/-- The set of the given streams, in order. The first that cannot be measured fails all. -/
def ofStreams (streams : List σ) : Except IoError (FileSet σ) :=
  return ⟨← streams.mapM measure⟩

/-- The set after a read, what the read put at the front of the buffer, and how it ended. -/
structure Access (σ : Type) where
  files : FileSet σ
  received : Bytes
  outcome : Except IoError Unit
  log : Log

/-- No file of the set has this number. -/
def unknownFile (file : Nat) : IoError := ⟨.notFound, s!"file {file} is not part of the set"⟩

/-- Reads `want` bytes of a file from `offset` on, or as many as there are. -/
def readAt (files : FileSet σ) (file offset want : Nat) : Access σ :=
  match files.members[file]? with
  | none => ⟨files, [], .error (unknownFile file), []⟩
  | some member =>
    match ByteStream.seek member.stream offset with
    | (.error e, moved) => ⟨files.setStream file moved, [], .error e, []⟩
    | (.ok _, moved) =>
      let filled := ByteStream.fill moved want
      { files := files.setStream file filled.stream
        received := filled.received
        outcome := filled.outcome
        log :=
          match filled.outcome with
          | .ok _ => [.bytesRead filled.received.length file offset]
          | .error _ => [] }

/-- Moves a file back to its start. A file that is not part of the set needs no moving. -/
def rewind (files : FileSet σ) (file : Nat) : FileSet σ × Except IoError Unit :=
  match files.members[file]? with
  | none => (files, .ok ())
  | some member =>
    let (outcome, moved) := ByteStream.seek member.stream 0
    (files.setStream file moved, outcome)

end FileSet

end RawReel
