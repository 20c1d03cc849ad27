import RawReel.Block.FileHeader
import RawReel.Block.RawInfoHeader
import RawReel.Block.VideoFrameHeader

/-!
Blocks as a reader hands them out: a header, and a stretch of the frame buffer behind it.
-/

namespace RawReel

inductive BlockHeader
  | fileHeader (header : FileHeader)
  | rawInfo (header : RawInfoHeader)
  | videoFrame (header : VideoFrameHeader)
  deriving DecidableEq

namespace BlockHeader

def tag : BlockHeader → BlockTag
  | fileHeader _ => .fileHeader
  | rawInfo _ => .rawInfo
  | videoFrame _ => .videoFrame

def encode : BlockHeader → Bytes
  | fileHeader h => h.encode
  | rawInfo h => h.encode
  | videoFrame h => h.encode

/-- The size of the whole block that the header declares. -/
def blockSize : BlockHeader → UInt32
  | fileHeader h => h.blockSize
  | rawInfo h => h.blockSize
  | videoFrame h => h.blockSize

/-- Decodes the header at the start of `data` as one of the given kind. -/
def ofBytes (tag : BlockTag) (data : Bytes) : Except FormatError BlockHeader :=
  match tag with
  | .fileHeader => (FileHeader.ofBytes data).map .fileHeader
  | .rawInfo => (RawInfoHeader.ofBytes data).map .rawInfo
  | .videoFrame => (VideoFrameHeader.ofBytes data).map .videoFrame

end BlockHeader

/-- The buffer of `size` bytes that frames are read into. Bytes that nothing was read into are
zero. -/
structure FrameBuffer where
  size : Nat
  written : Bytes
  written_le : written.length ≤ size

namespace FrameBuffer

def blank (size : Nat) : FrameBuffer := ⟨size, [], Nat.zero_le _⟩

/-- All bytes of the buffer. -/
def contents (b : FrameBuffer) : Bytes :=
  b.written ++ List.replicate (b.size - b.written.length) 0

/-- The `length` bytes from `offset` on, as far as the buffer reaches. -/
def slice (b : FrameBuffer) (offset length : Nat) : Bytes :=
  let found := (b.written.drop offset).take length
  found ++ List.replicate (min length (b.size - offset) - found.length) 0

/-- Puts `front` over the first bytes; what does not fit is dropped. -/
def overwrite (b : FrameBuffer) (front : Bytes) : FrameBuffer :=
  ⟨b.size, front.take b.size ++ b.written.drop front.length, by
    have := b.written_le
    simp only [List.length_append, List.length_take, List.length_drop]
    omega⟩

@[simp] theorem size_overwrite (b : FrameBuffer) (front : Bytes) :
    (b.overwrite front).size = b.size := rfl

@[simp] theorem length_contents (b : FrameBuffer) : b.contents.length = b.size := by
  have := b.written_le
  simp only [contents, List.length_append, List.length_replicate]
  omega

theorem contents_overwrite (b : FrameBuffer) {front : Bytes} (fits : front.length ≤ b.size) :
    (b.overwrite front).contents = front ++ b.contents.drop front.length := by
  have := b.written_le
  simp only [contents, overwrite, List.take_of_length_le fits, List.drop_append,
    List.append_assoc, List.length_append, List.length_drop, List.drop_replicate]
  congr 3
  omega

/-- A buffer that was filled has nothing left in it of what it held before. -/
theorem contents_overwrite_of_le (b : FrameBuffer) {front : Bytes} (full : b.size ≤ front.length) :
    (b.overwrite front).contents = front.take b.size := by
  have nothing_left : b.written.drop front.length = [] :=
    List.drop_eq_nil_of_le (Nat.le_trans b.written_le full)
  have length_eq : (front.take b.size).length = b.size := List.length_take_of_le full
  rw [contents, overwrite]
  dsimp only
  rw [nothing_left, List.append_nil, length_eq, Nat.sub_self, List.replicate_zero, List.append_nil]

theorem slice_eq (b : FrameBuffer) (offset length : Nat) :
    b.slice offset length = (b.contents.drop offset).take length := by
  have := b.written_le
  simp only [slice, contents, List.drop_append, List.take_append, List.drop_replicate,
    List.take_replicate, List.length_take, List.length_drop]
  congr 2
  omega

end FrameBuffer

/-- What a handler receives: a header, and the stretch of the frame buffer that belongs to it. -/
structure Block where
  header : BlockHeader
  buffer : FrameBuffer
  offset : Nat
  length : Nat

namespace Block

def tag (b : Block) : BlockTag := b.header.tag

/-- The stretch of the buffer that belongs to the block. -/
def data (b : Block) : Bytes := b.buffer.slice b.offset b.length

/-- The block as it stands in a block stream: its header, then its data. -/
def encode (b : Block) : Bytes := b.header.encode ++ b.data

end Block

end RawReel
