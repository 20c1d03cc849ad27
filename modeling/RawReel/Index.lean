import RawReel.Diagnostic

/-!
The block index: one descriptor for each frame of a recording, in order. Frames of one size stand
back to back from the start of the first file, across the ends of files, up to the footer at the
end of the last file. What is left over in front of the footer and is smaller than a frame belongs
to no block.
-/

namespace RawReel

/-- The file in which the byte at `offset` stands, counted from file `file` on, and its place there.
Past the last end of a file, the last file is taken. -/
def placeFrom : (file offset : Nat) → (lengths : List Nat) → Nat × Nat
  | file, offset, length :: next :: lengths =>
    if length ≤ offset then placeFrom (file + 1) (offset - length) (next :: lengths)
    else (file, offset)
  | file, offset, _ => (file, offset)

/-- The file and the offset in it of the byte at `offset` in all files joined. -/
def place (lengths : List Nat) (offset : Nat) : Nat × Nat := placeFrom 0 offset lengths

/-- A walk over the files of a recording, frame by frame. It stands at `offset` of `file`, behind
`frames` frames of `consumed` bytes in all. A step over a frame may lead past the end of the file;
the files that end before the next frame are passed after it. -/
structure IndexWalk where
  file : Nat
  offset : Nat
  consumed : Nat
  frames : Nat
  deriving DecidableEq

namespace IndexWalk

def start : IndexWalk := ⟨0, 0, 0, 0⟩

/-- The length of the file that the walk stands in, if that file ends at or before the offset and
is not the last one. -/
def ended? (w : IndexWalk) (lengths : List Nat) : Option Nat :=
  if w.file + 1 < lengths.length then lengths[w.file]?.filter (· ≤ w.offset) else none

/-- Goes from the end of a file of the given length on into the next one. -/
def pass (w : IndexWalk) (length : Nat) : IndexWalk :=
  { w with file := w.file + 1, offset := w.offset - length }

/-- Goes to the end of the frame that starts where the walk stands. -/
def step (w : IndexWalk) (frameSize : Nat) : IndexWalk :=
  { w with
    offset := w.offset + frameSize
    consumed := w.consumed + frameSize
    frames := w.frames + 1 }

theorem ended?_lt {w : IndexWalk} {lengths : List Nat} {length : Nat}
    (ended : w.ended? lengths = some length) : w.file + 1 < lengths.length := by
  unfold ended? at ended
  split at ended
  · assumption
  · cases ended

/-- Passing a file leaves fewer files ahead. -/
theorem files_left_lt {w : IndexWalk} {lengths : List Nat} {length : Nat}
    (ended : w.ended? lengths = some length) :
    lengths.length - (w.pass length).file < lengths.length - w.file := by
  have next := ended?_lt ended
  simp only [pass]
  omega

/-- A step over a frame leaves less of the payload ahead. -/
theorem payload_left_lt {w : IndexWalk} {payload frameSize : Nat} (positive : 0 < frameSize)
    (enough : ¬payload - w.consumed < frameSize) :
    payload - (w.step frameSize).consumed < payload - w.consumed := by
  simp only [step]
  omega

end IndexWalk

structure BlockIndex where
  entries : Array BlockDescriptor
  deriving DecidableEq

namespace BlockIndex

def empty : BlockIndex := ⟨#[]⟩

def size (index : BlockIndex) : Nat := index.entries.size

def isEmpty (index : BlockIndex) : Bool := index.entries.isEmpty

def toList (index : BlockIndex) : List BlockDescriptor := index.entries.toList

def get? (index : BlockIndex) (n : Nat) : Option BlockDescriptor := index.entries[n]?

def last? (index : BlockIndex) : Option BlockDescriptor := index.entries.back?

/-- The descriptor of frame `n` of `frameSize` bytes. -/
def describeFrame (lengths : List Nat) (frameSize fpsX1000 n : Nat) : BlockDescriptor :=
  let (file, offset) := place lengths (n * frameSize)
  ⟨file, offset, BlockDescriptor.timestamp n fpsX1000⟩

/-- The bytes of all files in front of the footer. -/
def payload (lengths : List Nat) (footerSize : Nat) : Nat := lengths.foldr (· + ·) 0 - footerSize

/-- Goes on with a walk until less than a frame is left of the payload. Each frame that it comes to
is put down behind `entries`. -/
def walk (lengths : List Nat) (payload frameSize fpsX1000 : Nat) (positive : 0 < frameSize)
    (w : IndexWalk) (entries : Array BlockDescriptor) : IndexWalk × Array BlockDescriptor :=
  match _h : w.ended? lengths with
  | some length => walk lengths payload frameSize fpsX1000 positive (w.pass length) entries
  | none =>
    if payload - w.consumed < frameSize then (w, entries)
    else
      walk lengths payload frameSize fpsX1000 positive (w.step frameSize)
        (entries.push ⟨w.file, w.offset, BlockDescriptor.timestamp w.frames fpsX1000⟩)
termination_by (payload - w.consumed, lengths.length - w.file)
decreasing_by
  · exact Prod.Lex.right _ (IndexWalk.files_left_lt _h)
  · exact Prod.Lex.left _ _ (IndexWalk.payload_left_lt positive ‹_›)

/-- The index of files of the given lengths. Without files, or without a frame size, there is
nothing to index.

Two things are left out. That the times of the entries never decrease is asserted in debug builds
alone; here it is not, as in a release build. And there may be any number of entries, where a
machine has a limit on the room that it sets aside for them. -/
def build (lengths : List Nat) (footerSize frameSize fpsX1000 : Nat) : Logged BlockIndex :=
  if nothing : lengths = [] ∨ frameSize = 0 then ⟨empty, []⟩
  else
    let total := payload lengths footerSize
    let positive := Nat.pos_of_ne_zero fun zero => nothing (.inr zero)
    let (last, entries) := walk lengths total frameSize fpsX1000 positive .start #[]
    let index : BlockIndex := ⟨entries⟩
    let trailing := total - last.consumed
    ⟨index,
      index.toList.mapIdx (fun n entry => .blockIndexed n entry)
        ++ (if trailing > 0 then [.trailingBytes trailing] else [])
        ++ [.indexed index.size lengths.length]⟩

/-- Halves the range of `size + 1` entries from `base` on until one is left, keeping the last entry
before time `t` in it if there is one. The answer is the first entry not before `t`. -/
def search (index : BlockIndex) (t : UInt64) (base size : Nat) : Nat :=
  let before (n : Nat) : Bool :=
    match index.entries[n]? with
    | some entry => entry.timestampNs < t
    | none => false
  if size = 0 then if before base then base + 1 else base
  else
    let half := (size + 1) / 2
    index.search t (if before (base + half) then base + half else base) (size - half)
termination_by size

/-- The first block at or after a time, if there is one. Timestamps are taken to be in order. -/
def positionAt? (index : BlockIndex) (t : UInt64) : Option Nat :=
  if index.size = 0 then none
  else
    let n := index.search t 0 (index.size - 1)
    if n < index.size then some n else none

end BlockIndex

end RawReel
