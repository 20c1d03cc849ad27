import RawReel.Block.Tag
import RawReel.Footer

/-!
The file header, the first block of every block stream. A recording stores none, so it is made up
from the footer: fields that the footer cannot fill hold fixed values.
-/

namespace RawReel

structure FileHeader where
  blockSize : UInt32
  version : FixedBytes 8
  guid : UInt64
  fileNumber : UInt16
  fileCount : UInt16
  flags : UInt32
  videoClass : UInt16
  audioClass : UInt16
  videoFrames : UInt32
  audioFrames : UInt32
  fpsNom : UInt32
  fpsDenom : UInt32
  deriving DecidableEq

namespace FileHeader

/-- Bytes of a packed file header. -/
def size : Nat := 52

/-- The text `v2.0`, filled up with zero bytes. -/
def version2 : FixedBytes 8 := ⟨[0x76, 0x32, 0x2e, 0x30, 0, 0, 0, 0], rfl⟩

/-- The video class of uncompressed frames. -/
def rawVideo : UInt16 := 1

/-- The audio class of a recording without sound. -/
def noAudio : UInt16 := 0

/-- The header of a recording of `files` files in which `frames` frames are indexed. Counts too
large for their field stop at its maximum. -/
def synthesize (footer : Footer) (files frames : Nat) : FileHeader where
  blockSize := UInt32.ofNat size
  version := version2
  guid := 0
  fileNumber := 0
  fileCount := UInt16.ofNat (min files 0xFFFF)
  flags := 0
  videoClass := rawVideo
  audioClass := noAudio
  videoFrames := UInt32.ofNat (min frames 0xFFFFFFFF)
  audioFrames := 0
  fpsNom := UInt32.ofNat footer.rate
  fpsDenom := 1000

def readFields : Cursor.Read FileHeader := do
  return {
    blockSize := ← Cursor.word UInt32
    version := ← Cursor.fixed 8
    guid := ← Cursor.word UInt64
    fileNumber := ← Cursor.word UInt16
    fileCount := ← Cursor.word UInt16
    flags := ← Cursor.word UInt32
    videoClass := ← Cursor.word UInt16
    audioClass := ← Cursor.word UInt16
    videoFrames := ← Cursor.word UInt32
    audioFrames := ← Cursor.word UInt32
    fpsNom := ← Cursor.word UInt32
    fpsDenom := ← Cursor.word UInt32 }

def ofBytes (data : Bytes) : Except FormatError FileHeader :=
  Record.decodeTagged BlockTag.fileHeader.code (.invalidBlockType .fileHeader) readFields data

def encode (h : FileHeader) : Bytes :=
  BlockTag.fileHeader.code.bytes ++ Word.encode h.blockSize ++ h.version.bytes ++
  Word.encode h.guid ++ Word.encode h.fileNumber ++ Word.encode h.fileCount ++
  Word.encode h.flags ++ Word.encode h.videoClass ++ Word.encode h.audioClass ++
  Word.encode h.videoFrames ++ Word.encode h.audioFrames ++ Word.encode h.fpsNom ++
  Word.encode h.fpsDenom

theorem length_encode (h : FileHeader) : h.encode.length = size := by
  simp [encode, FixedBytes.length_eq, Word.width, size]

/-- Frames per second; zero if the denominator is. -/
def fps (h : FileHeader) : Float :=
  if h.fpsDenom = 0 then 0 else h.fpsNom.toFloat / h.fpsDenom.toFloat

end FileHeader

end RawReel
