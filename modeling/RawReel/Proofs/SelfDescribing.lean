import Mathlib
import RawReel.Proofs.BlockStream
import RawReel.Proofs.Codec

/-!
# The block stream describes itself

The blocks that a handler is given, each as its header and then its data, make
one run of bytes. Main statement: `blocks_self_describing`. From its start to its
end, the code at a place tells which decoder reads the header there, and the size
in that header tells where the next block starts.
-/

namespace RawReel

/-- The bytes that a block of each kind takes up, if frames have `frameSize` bytes. -/
def BlockTag.span (frameSize : Nat) : BlockTag → Nat
  | .fileHeader => 52
  | .rawInfo => 180
  | .videoFrame => 32 + frameSize

/-- A block takes up as many bytes as its kind does, and its header says so. -/
structure Block.Sized (frameSize : Nat) (block : Block) : Prop where
  declared : block.header.blockSize.toNat = block.tag.span frameSize
  length_eq : block.encode.length = block.tag.span frameSize

/-- From `position` to its end, a run of bytes is made of certain blocks: at each
of them stand the code of its kind and a header that is decoded to the one of the
block, and the next block starts as far on as that header says. -/
inductive Walk (stream : Bytes) : Nat → List Block → Prop
  | done : Walk stream stream.length []
  | block {position : Nat} {block : Block} {blocks : List Block}
      (code : (stream.drop position).take 4 = block.tag.code.bytes)
      (decoded : BlockHeader.ofBytes block.tag (stream.drop position) = .ok block.header)
      (next : Walk stream (position + block.header.blockSize.toNat) blocks) :
      Walk stream position (block :: blocks)

/-- Blocks that say how large they are can be found one behind the other. -/
theorem walk_encode {frameSize : Nat} {blocks : List Block}
    (sized : ∀ block ∈ blocks, block.Sized frameSize) (front : Bytes) :
    Walk (front ++ blocks.flatMap Block.encode) front.length blocks := by
  induction blocks generalizing front with
  | nil =>
    rw [List.flatMap_nil, List.append_nil]
    exact .done
  | cons block blocks ih =>
    obtain ⟨own, later⟩ := List.forall_mem_cons.mp sized
    have here : (front ++ (block :: blocks).flatMap Block.encode).drop front.length =
        block.header.encode ++ (block.data ++ blocks.flatMap Block.encode) := by
      rw [List.drop_left, List.flatMap_cons, Block.encode, List.append_assoc]
    refine .block ?_ ?_ ?_
    · rw [here]
      exact block.header.take_encode _
    · rw [here]
      exact block.header.ofBytes_encode _
    · have rest := ih later (front ++ block.encode)
      rwa [List.length_append, own.length_eq, ← own.declared, List.append_assoc,
        ← List.flatMap_cons] at rest

theorem Footer.frameBytes_lt (f : Footer) : f.frameBytes < 2 ^ 31 := by
  have := f.frameSize.toInt_lt
  rw [frameBytes]
  omega

theorem VideoFrameHeader.toNat_blockSize (index : Nat) (timestampNs : UInt64) {frameSize : Nat}
    (small : frameSize < 2 ^ 31) :
    (ofFrame index timestampNs frameSize).blockSize.toNat = 32 + frameSize := by
  simp only [ofFrame, UInt32.toNat_ofNat', size]
  omega

namespace Reader

section
variable {σ η : Type}

theorem FrameBlock.sized {r : Reader σ η} {index : Nat} {frame : Bytes} {block : Block}
    (shows : FrameBlock r index frame block) (full : frame.length = r.frameSize)
    (small : r.frameSize < 2 ^ 31) : block.Sized r.frameSize := by
  obtain ⟨_, header, _, header_eq, rfl, _⟩ := shows.header
  have tag : block.tag = .videoFrame := congrArg BlockHeader.tag header_eq
  refine ⟨?_, ?_⟩
  · rw [tag, header_eq]
    exact VideoFrameHeader.toNat_blockSize _ _ small
  · rw [tag, Block.encode, List.length_append, header_eq, shows.data_eq, full]
    exact congrArg (· + _) (VideoFrameHeader.length_encode _)

variable [ByteStream σ]

theorem length_readFrame {r : Reader σ η} {index : Nat} {frame : Bytes}
    (ok : (r.readFrame index).result = .ok frame) : frame.length = r.frameSize := by
  obtain ⟨_, contents⟩ := readFrame_ok ok
  rw [← contents, FrameBuffer.length_contents]
  exact (readFrame_keeps r index).frameSize_eq

/-- A block that hands out a frame, all of it. -/
def WholeFrame (r : Reader σ η) (block : Block) : Prop :=
  ∃ index frame, FrameBlock r index frame block ∧ frame.length = r.frameSize

theorem ShownFrame.wholeFrame {r : Reader σ η} {index : Nat} {blocks : List Block}
    (shown : ShownFrame r index blocks) : ∀ block ∈ blocks, r.WholeFrame block := by
  cases shown with
  | read ok shows =>
    rw [List.forall_mem_singleton]
    exact ⟨_, _, shows, length_readFrame ok⟩
  | unread => exact List.forall_mem_nil _

theorem Shown.wholeFrame {r : Reader σ η} {operation : Operation η} {blocks : List Block}
    (shown : r.Shown operation blocks) : ∀ block ∈ blocks, r.WholeFrame block := by
  cases operation with
  | readBlock | readNext => exact ShownFrame.wholeFrame shown
  | readFrame | setCursor | frames | setHandler | close =>
    cases shown
    exact List.forall_mem_nil _

variable [BlockHandler η]

/-- All blocks after the first two hand out frames. -/
theorem Streamed.wholeFrame {r : Reader σ η} {operations : List (Operation η)}
    {blocks : List Block} (streamed : Streamed r operations blocks) :
    ∀ block ∈ blocks, r.WholeFrame block := by
  induction streamed with
  | done => exact List.forall_mem_nil _
  | @call r operation operations blocks later shown _ ih =>
    have keeps := after_keeps r operation
    refine List.forall_mem_append.mpr ⟨shown.wholeFrame, ?_⟩
    intro block among
    obtain ⟨index, frame, shows, full⟩ := ih block among
    exact ⟨index, frame, shows.of_same keeps.index_eq.symm keeps.frameSize_eq.symm,
      full.trans keeps.frameSize_eq⟩

theorem Streamed.sized {r : Reader σ η} {operations : List (Operation η)} {blocks : List Block}
    (streamed : Streamed r operations blocks) (small : r.frameSize < 2 ^ 31) :
    ∀ block ∈ blocks, block.Sized r.frameSize := by
  intro block among
  obtain ⟨_, _, shows, full⟩ := streamed.wholeFrame block among
  exact shows.sized full small

theorem preamble_sized {failLevel : Level} {files : FileSet σ} {handler : η}
    {opened : Reader σ η} (ok : (openWith failLevel files handler).result = .ok opened) :
    ∀ block ∈ opened.preamble, block.Sized opened.frameSize := by
  obtain ⟨footer, _, _, _, introduced⟩ := openWith_eq_ok_iff.mp ok
  obtain ⟨after, rfl⟩ := introduce_ok introduced
  intro block listed
  simp only [preamble, List.mem_cons, List.not_mem_nil, or_false] at listed
  rcases listed with rfl | rfl
  · refine ⟨rfl, ?_⟩
    rw [Block.encode, (headerBlock_blank _ _).data_eq, List.append_nil]
    exact FileHeader.length_encode _
  · refine ⟨rfl, ?_⟩
    rw [Block.encode, (headerBlock_blank _ _).data_eq, List.append_nil]
    exact RawInfoHeader.length_encode _

/-- **The block stream describes itself.** Whatever is called on a reader that was
opened, the blocks that its handler is given make a run of bytes in which each of
them is found by its code, its header is read back as it was given, and the size
in it, which is that of the whole block, leads to the next block and, from the
last one, to the end. -/
theorem blocks_self_describing {failLevel : Level} {files : FileSet σ} {handler : η}
    {opened : Reader σ η} (ok : (openWith failLevel files handler).result = .ok opened)
    (operations : List (Operation η)) :
    let blocks := given failLevel files handler operations
    Walk (blocks.flatMap Block.encode) 0 blocks ∧
      ∀ block ∈ blocks, block.Sized opened.frameSize := by
  intro blocks
  obtain ⟨laid, _⟩ := openWith_laid ok
  obtain ⟨later, blocks_eq, streamed⟩ := given_streamed ok operations
  have small : opened.frameSize < 2 ^ 31 := laid.frameSize_eq ▸ Footer.frameBytes_lt _
  have sized : ∀ block ∈ blocks, block.Sized opened.frameSize := by
    simp only [blocks, blocks_eq]
    exact List.forall_mem_append.mpr ⟨preamble_sized ok, streamed.sized small⟩
  exact ⟨walk_encode sized [], sized⟩

end

theorem blocks_self_describing_two_frames :
    ∃ opened, (openWith .error twoFrames rejectsFirstFrame).result = .ok opened ∧
      let blocks := given .error twoFrames rejectsFirstFrame mixedCalls
      blocks.map (fun block => (block.tag, block.data)) =
        [(.fileHeader, []), (.rawInfo, []), (.videoFrame, [0, 1, 2]), (.videoFrame, [0, 1, 2])] ∧
      Walk (blocks.flatMap Block.encode) 0 blocks ∧
      ∀ block ∈ blocks, block.Sized opened.frameSize := by
  obtain ⟨opened, ok, shown⟩ := twoFrames_opens
  exact ⟨opened, ok, shown, blocks_self_describing ok mixedCalls⟩

end Reader

end RawReel
