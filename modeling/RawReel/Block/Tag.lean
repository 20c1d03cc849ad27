import RawReel.Bytes

/-!
The kinds of block that a reader hands out, and the four-character codes they start with.
-/

namespace RawReel

inductive BlockTag
  | fileHeader
  | rawInfo
  | videoFrame
  deriving DecidableEq

namespace BlockTag

def code : BlockTag → FourCC
  | fileHeader => .ofChars 'M' 'L' 'V' 'I'
  | rawInfo => .ofChars 'R' 'A' 'W' 'I'
  | videoFrame => .ofChars 'V' 'I' 'D' 'F'

/-- The code as text. -/
def text (tag : BlockTag) : String := tag.code.text

/-- What messages call a block of this kind. -/
def noun : BlockTag → String
  | fileHeader => "file header"
  | rawInfo => "raw info"
  | videoFrame => "video frame"

/-- All kinds, in the order in which they first appear in a block stream. -/
def all : List BlockTag := [fileHeader, rawInfo, videoFrame]

end BlockTag

end RawReel
