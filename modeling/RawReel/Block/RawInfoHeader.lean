import RawReel.Block.Tag
import RawReel.Footer

/-!
The raw info header, the second block of every block stream: the resolution and the sensor
descriptor, copied from the footer bit for bit.
-/

namespace RawReel

structure RawInfoHeader where
  blockSize : UInt32
  timestamp : UInt64
  width : UInt16
  height : UInt16
  sensor : SensorInfo
  deriving DecidableEq

namespace RawInfoHeader

/-- Bytes of a packed raw info header. -/
def size : Nat := 20 + SensorInfo.size

def ofFooter (footer : Footer) : RawInfoHeader where
  blockSize := UInt32.ofNat size
  timestamp := 0
  width := footer.width.toUInt16
  height := footer.height.toUInt16
  sensor := footer.sensor

def readFields : Cursor.Read RawInfoHeader := do
  return {
    blockSize := ← Cursor.word UInt32
    timestamp := ← Cursor.word UInt64
    width := ← Cursor.word UInt16
    height := ← Cursor.word UInt16
    sensor := ← SensorInfo.read }

def ofBytes (data : Bytes) : Except FormatError RawInfoHeader :=
  Record.decodeTagged BlockTag.rawInfo.code (.invalidBlockType .rawInfo) readFields data

def encode (h : RawInfoHeader) : Bytes :=
  BlockTag.rawInfo.code.bytes ++ Word.encode h.blockSize ++ Word.encode h.timestamp ++
  Word.encode h.width ++ Word.encode h.height ++ h.sensor.encode

theorem length_encode (h : RawInfoHeader) : h.encode.length = size := by
  simp [encode, FixedBytes.length_eq, SensorInfo.length_encode, Word.width, size,
    SensorInfo.size]

end RawInfoHeader

end RawReel
