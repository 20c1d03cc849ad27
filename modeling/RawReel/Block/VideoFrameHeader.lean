import RawReel.Block.Tag
import RawReel.Record

/-!
The video frame header, made up for every frame that is handed out.
-/

namespace RawReel

structure VideoFrameHeader where
  /-- Bytes of the header and the frame after it. -/
  blockSize : UInt32
  /-- Microseconds since the start of the recording. -/
  timestamp : UInt64
  frameNumber : UInt32
  cropX : UInt16
  cropY : UInt16
  panX : UInt16
  panY : UInt16
  /-- Padding between the header and the frame. -/
  frameSpace : UInt32
  deriving DecidableEq

namespace VideoFrameHeader

/-- Bytes of a packed header, without the frame. -/
def size : Nat := 32

/-- The header of frame `index`, which starts `timestampNs` nanoseconds into the recording. Numbers
too large for their field stop at its maximum. -/
def ofFrame (index : Nat) (timestampNs : UInt64) (frameSize : Nat) : VideoFrameHeader where
  blockSize := UInt32.ofNat (min (size + frameSize) 0xFFFFFFFF)
  timestamp := timestampNs / 1000
  frameNumber := UInt32.ofNat (min index 0xFFFFFFFF)
  cropX := 0
  cropY := 0
  panX := 0
  panY := 0
  frameSpace := 0

def readFields : Cursor.Read VideoFrameHeader := do
  return {
    blockSize := ← Cursor.word UInt32
    timestamp := ← Cursor.word UInt64
    frameNumber := ← Cursor.word UInt32
    cropX := ← Cursor.word UInt16
    cropY := ← Cursor.word UInt16
    panX := ← Cursor.word UInt16
    panY := ← Cursor.word UInt16
    frameSpace := ← Cursor.word UInt32 }

def ofBytes (data : Bytes) : Except FormatError VideoFrameHeader :=
  Record.decodeTagged BlockTag.videoFrame.code (.invalidBlockType .videoFrame) readFields data

def encode (h : VideoFrameHeader) : Bytes :=
  BlockTag.videoFrame.code.bytes ++ Word.encode h.blockSize ++ Word.encode h.timestamp ++
  Word.encode h.frameNumber ++ Word.encode h.cropX ++ Word.encode h.cropY ++
  Word.encode h.panX ++ Word.encode h.panY ++ Word.encode h.frameSpace

theorem length_encode (h : VideoFrameHeader) : h.encode.length = size := by
  simp [encode, FixedBytes.length_eq, Word.width, size]

end VideoFrameHeader

end RawReel
