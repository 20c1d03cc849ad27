import RawReel.Reader

/-!
Going through the frames of a recording from the first to the last, without the handler. A frame
that cannot be read does not end the walk.
-/

namespace RawReel

/-- A copy of one frame. -/
structure Frame where
  index : Nat
  timestampNs : UInt64
  data : Bytes
  deriving DecidableEq

/-- A walk over the frames of a reader, standing before frame `next`. -/
structure Frames (σ η : Type) where
  reader : Reader σ η
  next : Nat

namespace Reader

/-- A walk that starts before the first frame. -/
def frames {σ η : Type} (r : Reader σ η) : Frames σ η := ⟨r, 0⟩

end Reader

namespace Frames

variable {σ η : Type}

/-- How many frames are still to come. -/
def remaining (walk : Frames σ η) : Nat := walk.reader.blockCount - walk.next

/-- One step of a walk: the frame or the error in its place, and the walk that goes on. -/
structure Item (σ η : Type) where
  frame : Except ReadError Frame
  walk : Frames σ η
  log : Log

variable [ByteStream σ]

/-- The next frame; none after the last. -/
def advance? (walk : Frames σ η) : Option (Item σ η) :=
  (walk.reader.index.get? walk.next).map fun start =>
    let step := walk.reader.readFrame walk.next
    { frame := step.result.map fun data => ⟨walk.next, start.timestampNs, data⟩
      walk := ⟨step.reader, walk.next + 1⟩
      log := step.log }

/-- The next `count` frames, or those that are left, and the walk after them. -/
def take (walk : Frames σ η) : Nat → List (Except ReadError Frame) × Frames σ η × Log
  | 0 => ([], walk, [])
  | count + 1 =>
    match walk.advance? with
    | none => ([], walk, [])
    | some item =>
      let (frames, after, log) := take item.walk count
      (item.frame :: frames, after, item.log ++ log)

end Frames

end RawReel
