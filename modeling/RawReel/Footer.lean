import RawReel.Sensor

/-!
The footer of a recording: the last 192 bytes of its last file. It says how large a frame is and
how fast frames follow each other, and it carries the camera's sensor descriptor.
-/

namespace RawReel

structure Footer where
  magic : FourCC
  width : Int16
  height : Int16
  /-- Bytes of one frame. -/
  frameSize : Int32
  /-- How many frames the camera meant to record. The index is built from the file lengths. -/
  frameCount : Int32
  frameSkip : Int32
  /-- Frames in a thousand seconds. -/
  fpsX1000 : Int32
  reserved3 : Int32
  reserved4 : Int32
  sensor : SensorInfo
  deriving DecidableEq

namespace Footer

/-- The code that a footer starts with. -/
def code : FourCC := .ofChars 'R' 'A' 'W' 'M'

/-- Bytes of a packed footer. -/
def size : Nat := 32 + SensorInfo.size

/-- The fields after the magic. -/
def readFields : Cursor.Read Footer := do
  return {
    magic := code
    width := ← Cursor.word Int16
    height := ← Cursor.word Int16
    frameSize := ← Cursor.word Int32
    frameCount := ← Cursor.word Int32
    frameSkip := ← Cursor.word Int32
    fpsX1000 := ← Cursor.word Int32
    reserved3 := ← Cursor.word Int32
    reserved4 := ← Cursor.word Int32
    sensor := ← SensorInfo.read }

/-- Decodes the footer at the start of `data` and checks its magic, not its geometry. -/
def ofBytes (data : Bytes) : Except FormatError Footer :=
  if data.length < size then .error (.truncated data.length size)
  else Record.decodeTagged code .invalidMagic readFields (data.take size)

def encode (f : Footer) : Bytes :=
  f.magic.bytes ++ Word.encode f.width ++ Word.encode f.height ++ Word.encode f.frameSize ++
  Word.encode f.frameCount ++ Word.encode f.frameSkip ++ Word.encode f.fpsX1000 ++
  Word.encode f.reserved3 ++ Word.encode f.reserved4 ++ f.sensor.encode

theorem length_encode (f : Footer) : f.encode.length = size := by
  simp [encode, f.magic.length_eq, SensorInfo.length_encode, Word.width, size, SensorInfo.size]

/-- Refuses a geometry from which no index can be built. -/
def validate (f : Footer) : Except FormatError Unit :=
  if f.frameSize ≤ 0 then .error (.invalidFrameSize f.frameSize)
  else if f.fpsX1000 ≤ 0 then .error (.invalidFrameRate f.fpsX1000)
  else .ok ()

/-- Bytes of one frame; none if the stored size is negative. -/
def frameBytes (f : Footer) : Nat := f.frameSize.toInt.toNat

/-- Frames in a thousand seconds; none if the stored rate is negative. -/
def rate (f : Footer) : Nat := f.fpsX1000.toInt.toNat

def fps (f : Footer) : Float := f.fpsX1000.toFloat / 1000

/-- The whole footer on one line. -/
def describe (f : Footer) : String :=
  Text.record "Footer" [
    ("magic", Text.bracketed (f.magic.bytes.map toString)),
    ("x_res", toString f.width), ("y_res", toString f.height),
    ("frame_size", toString f.frameSize), ("frame_count", toString f.frameCount),
    ("frame_skip", toString f.frameSkip), ("source_fps_x1000", toString f.fpsX1000),
    ("reserved3", toString f.reserved3), ("reserved4", toString f.reserved4),
    ("raw_info", f.sensor.describe)]

end Footer

end RawReel
