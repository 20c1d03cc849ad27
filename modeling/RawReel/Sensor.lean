import RawReel.Record
import RawReel.Text.Record

/-!
The raw sensor descriptor that a camera stores with a recording: 160 packed bytes that describe the
pixel buffer, its usable part, and the colour calibration.
-/

namespace RawReel

/-- The part of the sensor shown in previews. -/
structure PreviewCrop where
  x : Int32
  y : Int32
  width : Int32
  height : Int32
  deriving DecidableEq

/-- The rows and columns of the sensor that hold an image. -/
structure ActiveArea where
  top : Int32
  left : Int32
  bottom : Int32
  right : Int32
  deriving DecidableEq

/-- A calibration entry, kept as numerator and denominator. -/
structure Ratio where
  num : Int32
  den : Int32
  deriving DecidableEq

structure ColorRow where
  red : Ratio
  green : Ratio
  blue : Ratio
  deriving DecidableEq

structure ColorMatrix where
  x : ColorRow
  y : ColorRow
  z : ColorRow
  deriving DecidableEq

structure SensorInfo where
  apiVersion : UInt32
  /-- The address of the frame buffer in the camera, without meaning once recorded. -/
  buffer : UInt32
  height : Int32
  width : Int32
  pitch : Int32
  frameSize : Int32
  bitsPerPixel : Int32
  blackLevel : Int32
  whiteLevel : Int32
  preview : PreviewCrop
  activeArea : ActiveArea
  exposureBias : Ratio
  cfaPattern : Int32
  illuminant : Int32
  colorMatrix : ColorMatrix
  /-- Hundredths of an exposure value. -/
  dynamicRange : Int32
  deriving DecidableEq

namespace PreviewCrop

def read : Cursor.Read PreviewCrop := do
  return { x := ← Cursor.word Int32, y := ← Cursor.word Int32,
           width := ← Cursor.word Int32, height := ← Cursor.word Int32 }

def encode (c : PreviewCrop) : Bytes :=
  Word.encode c.x ++ Word.encode c.y ++ Word.encode c.width ++ Word.encode c.height

def describe (c : PreviewCrop) : String :=
  Text.record "JpegCrop" [("x", toString c.x), ("y", toString c.y), ("width", toString c.width),
    ("height", toString c.height)]

end PreviewCrop

namespace ActiveArea

def width (a : ActiveArea) : Int32 := a.right - a.left

def height (a : ActiveArea) : Int32 := a.bottom - a.top

def read : Cursor.Read ActiveArea := do
  return { top := ← Cursor.word Int32, left := ← Cursor.word Int32,
           bottom := ← Cursor.word Int32, right := ← Cursor.word Int32 }

def encode (a : ActiveArea) : Bytes :=
  Word.encode a.top ++ Word.encode a.left ++ Word.encode a.bottom ++ Word.encode a.right

def describe (a : ActiveArea) : String :=
  Text.record "ActiveArea" [("y1", toString a.top), ("x1", toString a.left),
    ("y2", toString a.bottom), ("x2", toString a.right)]

end ActiveArea

namespace Ratio

def read : Cursor.Read Ratio := do
  return { num := ← Cursor.word Int32, den := ← Cursor.word Int32 }

def encode (q : Ratio) : Bytes := Word.encode q.num ++ Word.encode q.den

def terms (q : Ratio) : List Int32 := [q.num, q.den]

end Ratio

namespace ColorRow

def entries (r : ColorRow) : List Ratio := [r.red, r.green, r.blue]

def read : Cursor.Read ColorRow := do
  return { red := ← Ratio.read, green := ← Ratio.read, blue := ← Ratio.read }

def encode (r : ColorRow) : Bytes := r.red.encode ++ r.green.encode ++ r.blue.encode

end ColorRow

namespace ColorMatrix

def rows (m : ColorMatrix) : List ColorRow := [m.x, m.y, m.z]

/-- The nine entries, row by row. -/
def entries (m : ColorMatrix) : List Ratio := m.rows.flatMap ColorRow.entries

/-- The eighteen stored integers, numerators before their denominators. -/
def terms (m : ColorMatrix) : List Int32 := m.entries.flatMap Ratio.terms

def read : Cursor.Read ColorMatrix := do
  return { x := ← ColorRow.read, y := ← ColorRow.read, z := ← ColorRow.read }

def encode (m : ColorMatrix) : Bytes := m.x.encode ++ m.y.encode ++ m.z.encode

end ColorMatrix

namespace SensorInfo

/-- Bytes of a packed descriptor. -/
def size : Nat := 160

def read : Cursor.Read SensorInfo := do
  return {
    apiVersion := ← Cursor.word UInt32
    buffer := ← Cursor.word UInt32
    height := ← Cursor.word Int32
    width := ← Cursor.word Int32
    pitch := ← Cursor.word Int32
    frameSize := ← Cursor.word Int32
    bitsPerPixel := ← Cursor.word Int32
    blackLevel := ← Cursor.word Int32
    whiteLevel := ← Cursor.word Int32
    preview := ← PreviewCrop.read
    activeArea := ← ActiveArea.read
    exposureBias := ← Ratio.read
    cfaPattern := ← Cursor.word Int32
    illuminant := ← Cursor.word Int32
    colorMatrix := ← ColorMatrix.read
    dynamicRange := ← Cursor.word Int32 }

def encode (s : SensorInfo) : Bytes :=
  Word.encode s.apiVersion ++ Word.encode s.buffer ++ Word.encode s.height ++
  Word.encode s.width ++ Word.encode s.pitch ++ Word.encode s.frameSize ++
  Word.encode s.bitsPerPixel ++ Word.encode s.blackLevel ++ Word.encode s.whiteLevel ++
  s.preview.encode ++ s.activeArea.encode ++ s.exposureBias.encode ++
  Word.encode s.cfaPattern ++ Word.encode s.illuminant ++ s.colorMatrix.encode ++
  Word.encode s.dynamicRange

theorem length_encode (s : SensorInfo) : s.encode.length = size := by
  simp [encode, PreviewCrop.encode, ActiveArea.encode, Ratio.encode, ColorMatrix.encode,
    ColorRow.encode, Word.width, size]

def ofBytes (data : Bytes) : Except FormatError SensorInfo := Record.decode read data

/-- The whole descriptor on one line. -/
def describe (s : SensorInfo) : String :=
  Text.record "RawInfo" [
    ("api_version", toString s.apiVersion), ("buffer", toString s.buffer),
    ("height", toString s.height), ("width", toString s.width), ("pitch", toString s.pitch),
    ("frame_size", toString s.frameSize), ("bits_per_pixel", toString s.bitsPerPixel),
    ("black_level", toString s.blackLevel), ("white_level", toString s.whiteLevel),
    ("jpeg", s.preview.describe), ("active_area", s.activeArea.describe),
    ("exposure_bias", Text.bracketed (s.exposureBias.terms.map toString)),
    ("cfa_pattern", toString s.cfaPattern),
    ("calibration_illuminant1", toString s.illuminant),
    ("color_matrix1", Text.bracketed (s.colorMatrix.terms.map toString)),
    ("dynamic_range", toString s.dynamicRange)]

end SensorInfo

end RawReel
