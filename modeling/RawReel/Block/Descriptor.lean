import RawReel.Text.Record

/-!
Where a frame starts, and when it is shown.
-/

namespace RawReel

/-- The start of a frame. A frame that runs past the end of its file goes on at the start of the
next one. -/
structure BlockDescriptor where
  file : Nat
  offset : Nat
  timestampNs : UInt64
  deriving DecidableEq

namespace BlockDescriptor

/-- When frame `n` is shown, in whole nanoseconds, rounded down and cut to 64 bits. Without a rate
every frame is shown at once. -/
def timestamp (n fpsX1000 : Nat) : UInt64 := UInt64.ofNat (n * 1_000_000_000_000 / fpsX1000)

/-- The descriptor on one line. -/
def describe (d : BlockDescriptor) : String :=
  Text.record "BlockDescriptor" [("file_index", toString d.file),
    ("byte_offset", toString d.offset), ("timestamp_ns", toString d.timestampNs)]

end BlockDescriptor

end RawReel
