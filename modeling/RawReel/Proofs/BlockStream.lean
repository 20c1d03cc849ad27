import Mathlib
import RawReel.Handler.Recorder
import RawReel.Proofs.Watched
import RawReel.Stream.Memory

/-!
# The block stream

What a handler is given, call by call. Main statement:
`handler_sees_block_stream`. It is given the file header and the raw info block
while the recording is opened, and then one block for each frame that is read to
be handed out, in the order of the calls, whatever the streams and the handler do.
-/

namespace RawReel

theorem VideoFrameHeader.toNat_frameNumber (index : Nat) (timestampNs : UInt64) (frameSize : Nat) :
    (ofFrame index timestampNs frameSize).frameNumber.toNat = min index (2 ^ 32 - 1) := by
  simp only [ofFrame, UInt32.toNat_ofNat']
  omega

/-- A block that takes up the buffer has all that is in it. -/
theorem Block.data_full (header : BlockHeader) (buffer : FrameBuffer) :
    Block.data ⟨header, buffer, 0, buffer.size⟩ = buffer.contents := by
  rw [data, buffer.slice_eq, List.drop_zero]
  exact List.take_of_length_le (Nat.le_of_eq buffer.length_contents)

/-- A block of a header alone. -/
structure HeaderBlock (header : BlockHeader) (block : Block) : Prop where
  header_eq : block.header = header
  offset_eq : block.offset = 0
  length_eq : block.length = 0
  data_eq : block.data = []

theorem headerBlock_blank (header : BlockHeader) (size : Nat) :
    HeaderBlock header ⟨header, .blank size, 0, 0⟩ := by
  refine ⟨rfl, rfl, rfl, ?_⟩
  rw [Block.data, FrameBuffer.slice_eq, List.take_zero]

namespace Reader

section
variable {σ η : Type}

/-- A block that hands out frame `index`: all bytes of the frame, behind a header
that tells its number and its time in microseconds. -/
structure FrameBlock (r : Reader σ η) (index : Nat) (frame : Bytes) (block : Block) : Prop where
  header : ∃ start header, r.index.get? index = some start ∧ block.header = .videoFrame header ∧
    header = .ofFrame index start.timestampNs r.frameSize ∧
    header.frameNumber.toNat = min index (2 ^ 32 - 1) ∧
    header.timestamp.toNat = start.timestampNs.toNat / 1000
  data_eq : block.data = frame
  offset_eq : block.offset = 0
  length_eq : block.length = r.frameSize

/-- Only the index and the frame size tell what a block of a frame is. -/
theorem FrameBlock.of_same {θ : Type} {r : Reader σ η} {s : Reader σ θ} {index : Nat}
    {frame : Bytes} {block : Block} (shows : FrameBlock r index frame block)
    (index_eq : s.index = r.index) (frameSize_eq : s.frameSize = r.frameSize) :
    FrameBlock s index frame block where
  header := by rw [index_eq, frameSize_eq]; exact shows.header
  data_eq := shows.data_eq
  offset_eq := shows.offset_eq
  length_eq := frameSize_eq ▸ shows.length_eq

variable [ByteStream σ]

/-- The blocks that are given to the handler when frame `index` is to be handed
out: just one if the frame can be read, and none otherwise. -/
inductive ShownFrame (r : Reader σ η) (index : Nat) : List Block → Prop
  | read {frame : Bytes} {block : Block} (ok : (r.readFrame index).result = .ok frame)
      (shows : FrameBlock r index frame block) : ShownFrame r index [block]
  | unread {e : ReadError} (failed : (r.readFrame index).result = .error e) :
      ShownFrame r index []

/-- The blocks that a call gives to the handler. -/
def Shown (r : Reader σ η) (operation : Operation η) (blocks : List Block) : Prop :=
  match operation with
  | .readBlock index => ShownFrame r index blocks
  | .readNext => ShownFrame r r.cursor blocks
  | .readFrame _ | .setCursor _ | .frames _ | .setHandler _ | .close => blocks = []

/-- A frame that was read is in the index, and is all that the buffer holds. -/
theorem readFrame_ok {r : Reader σ η} {index : Nat} {frame : Bytes}
    (ok : (r.readFrame index).result = .ok frame) :
    (∃ start, r.index.get? index = some start) ∧
      (r.readFrame index).reader.buffer.contents = frame := by
  cases there : r.files with
  | none => simp only [readFrame, there] at ok; cases ok
  | some files =>
    cases indexed : r.index.get? index with
    | none => simp only [readFrame, there, indexed] at ok; cases ok
    | some start =>
      refine ⟨⟨start, rfl⟩, ?_⟩
      simp only [readFrame, there, indexed] at ok ⊢
      unfold Except.map at ok
      split at ok <;> cases ok
      rfl

theorem readFrame_closed {r : Reader σ η} (closed : ¬ r.isReady = true) (index : Nat) :
    r.readFrame index = ⟨r, .error (.bounds .notReady), []⟩ := by
  have none_left := Option.not_isSome_iff_eq_none.mp closed
  simp only [readFrame, none_left]

theorem readFrame_outside {r : Reader σ η} (ready : r.isReady = true) {index : Nat}
    (outside : r.blockCount ≤ index) :
    r.readFrame index = ⟨r, .error (.bounds (.outOfRange index r.blockCount)), []⟩ := by
  obtain ⟨files, there⟩ := Option.isSome_iff_exists.mp ready
  have unindexed : r.index.get? index = none := Array.getElem?_eq_none outside
  simp only [readFrame, there, unindexed]

theorem readFrame_handler (r : Reader σ η) (index : Nat) :
    (r.readFrame index).reader.handler = r.handler := by
  unfold readFrame
  split
  · rfl
  · split <;> rfl

theorem frames_take_handler (walk : Frames σ η) (count : Nat) :
    (walk.take count).2.1.reader.handler = walk.reader.handler := by
  induction count generalizing walk with
  | zero => rfl
  | succ count ih =>
    unfold Frames.take
    split
    · rfl
    · next item found =>
      obtain ⟨start, _, rfl⟩ := Option.map_eq_some_iff.mp found
      rw [ih]
      exact readFrame_handler ..

variable [BlockHandler η]

theorem readBlock_unread {r : Reader σ η} {index : Nat} {e : ReadError}
    (failed : (r.readFrame index).result = .error e) :
    r.readBlock index = ⟨(r.readFrame index).reader, .error e, (r.readFrame index).log⟩ := by
  simp only [readBlock, Step.andThen, failed]

/-- If the frame can be read, its block is given to the handler, whose answer is
that of the call. -/
theorem readBlock_read {r : Reader σ η} {index : Nat} {frame : Bytes}
    (ok : (r.readFrame index).result = .ok frame) :
    ∃ block, FrameBlock r index frame block ∧
      r.readBlock index =
        let handled := BlockHandler.handle r.handler block
        ⟨{ (r.readFrame index).reader with handler := handled.handler },
          handled.outcome.mapError .handler,
          (r.readFrame index).log ++ .dispatching .videoFrame r.frameSize :: handled.log⟩ := by
  have keeps := readFrame_keeps r index
  obtain ⟨⟨start, indexed⟩, contents⟩ := readFrame_ok ok
  have indexed_read := indexed
  rw [← keeps.index_eq] at indexed_read
  refine ⟨⟨.videoFrame (.ofFrame index start.timestampNs r.frameSize),
    (r.readFrame index).reader.buffer, 0, r.frameSize⟩, ?_, ?_⟩
  · refine ⟨⟨start, _, indexed, rfl, rfl, VideoFrameHeader.toNat_frameNumber ..,
      UInt64.toNat_div _ _⟩, ?_, rfl, rfl⟩
    rw [← keeps.frameSize_eq, ← contents]
    exact Block.data_full ..
  · simp only [readBlock, Step.andThen, ok, indexed_read, dispatchFrame, dispatch,
      keeps.frameSize_eq, readFrame_handler]
    rfl

/-- Reading a block gives it to the handler just if the frame can be read. -/
theorem readBlock_shown (r : Reader σ (Watched η)) (index : Nat) :
    ∃ blocks, (r.readBlock index).reader.handler.seen = r.handler.seen ++ blocks ∧
      ShownFrame r.unwatch index blocks := by
  have same : (r.readFrame index).result = (r.unwatch.readFrame index).result :=
    congrArg Step.result (readFrame_unwatch r index)
  cases result : (r.readFrame index).result with
  | error e =>
    refine ⟨[], ?_, .unread (same.symm.trans result)⟩
    rw [readBlock_unread result, readFrame_handler, List.append_nil]
  | ok frame =>
    obtain ⟨block, shows, read⟩ := readBlock_read result
    refine ⟨[block], ?_, .read (same.symm.trans result) (shows.of_same rfl rfl)⟩
    rw [read]
    rfl

theorem readNext_shown (r : Reader σ (Watched η)) :
    ∃ blocks, r.readNext.reader.handler.seen = r.handler.seen ++ blocks ∧
      ShownFrame r.unwatch r.cursor blocks := by
  unfold readNext
  split
  · next closed =>
    have refused := readFrame_closed (r := r.unwatch) closed r.cursor
    exact ⟨[], (List.append_nil _).symm, .unread (congrArg Step.result refused)⟩
  · next ready =>
    split
    · next past =>
      have refused := readFrame_outside (r := r.unwatch) (not_not.mp ready) past
      exact ⟨[], (List.append_nil _).symm, .unread (congrArg Step.result refused)⟩
    · have read := readBlock_shown r r.cursor
      unfold Step.andThen
      split <;> exact read

/-- **What a call gives to the handler.** -/
theorem after_shown (r : Reader σ (Watched η)) (operation : Operation η) :
    ∃ blocks, (r.after operation.watched).handler.seen = r.handler.seen ++ blocks ∧
      Shown r.unwatch operation blocks := by
  cases operation with
  | readBlock index => exact readBlock_shown r index
  | readNext => exact readNext_shown r
  | readFrame index =>
    refine ⟨[], ?_, rfl⟩
    rw [List.append_nil]
    exact congrArg Watched.seen (readFrame_handler r index)
  | frames count =>
    refine ⟨[], ?_, rfl⟩
    rw [List.append_nil]
    exact congrArg Watched.seen (frames_take_handler r.frames count)
  | setCursor | setHandler | close => exact ⟨[], (List.append_nil _).symm, rfl⟩

/-- The blocks that a run of calls gives to the handler, call by call. -/
inductive Streamed : Reader σ η → List (Operation η) → List Block → Prop
  | done (r : Reader σ η) : Streamed r [] []
  | call {r : Reader σ η} {operation : Operation η} {operations : List (Operation η)}
      {blocks later : List Block} (shown : r.Shown operation blocks)
      (rest : Streamed (r.after operation) operations later) :
      Streamed r (operation :: operations) (blocks ++ later)

theorem run_streamed (r : Reader σ (Watched η)) (operations : List (Operation η)) :
    ∃ blocks, (r.run (operations.map .watched)).handler.seen = r.handler.seen ++ blocks ∧
      Streamed r.unwatch operations blocks := by
  induction operations generalizing r with
  | nil => exact ⟨[], (List.append_nil _).symm, .done _⟩
  | cons operation operations ih =>
    obtain ⟨blocks, seen, shown⟩ := after_shown r operation
    obtain ⟨later, seen_later, rest⟩ := ih (r.after operation.watched)
    rw [after_unwatch] at rest
    refine ⟨blocks ++ later, ?_, .call shown rest⟩
    rw [← List.append_assoc, ← seen, ← seen_later]
    rfl

/-- A handler is given the blocks without frames while a recording is opened,
and then those of the calls. -/
theorem given_streamed {failLevel : Level} {files : FileSet σ} {handler : η}
    {opened : Reader σ η} (ok : (openWith failLevel files handler).result = .ok opened)
    (operations : List (Operation η)) :
    ∃ blocks, given failLevel files handler operations = opened.preamble ++ blocks ∧
      Streamed opened operations blocks := by
  obtain ⟨watched, ok', rfl, seen⟩ := openWith_watched ok
  obtain ⟨blocks, seen_all, streamed⟩ := run_streamed watched operations
  refine ⟨blocks, ?_, streamed⟩
  simp only [given, ok']
  rw [seen_all, seen]

theorem given_preamble {failLevel : Level} {files : FileSet σ} {handler : η} {opened : Reader σ η}
    (ok : (openWith failLevel files handler).result = .ok opened) :
    given failLevel files handler [] = opened.preamble := by
  obtain ⟨_, given_eq, nothing⟩ := given_streamed ok []
  cases nothing
  rw [given_eq, List.append_nil]

/-- What one more call gives to the handler comes last. -/
theorem given_append {failLevel : Level} {files : FileSet σ} {handler : η}
    {opened : Reader σ η} (ok : (openWith failLevel files handler).result = .ok opened)
    (operations : List (Operation η)) (operation : Operation η) :
    ∃ blocks, given failLevel files handler (operations ++ [operation]) =
        given failLevel files handler operations ++ blocks ∧
      (opened.run operations).Shown operation blocks := by
  obtain ⟨watched, ok', rfl, _⟩ := openWith_watched ok
  obtain ⟨blocks, seen, shown⟩ := after_shown (watched.run (operations.map .watched)) operation
  rw [run_unwatch] at shown
  refine ⟨blocks, ?_, shown⟩
  simp only [given, ok', ← seen, List.map_append]
  rw [run_append]
  rfl

/-- **A handler sees just the block stream.** It is given the two headers of the
recording while it is opened, and then, for each call that reads a frame to hand
it out, the block of that frame if the frame can be read; that it is watched
makes no difference. -/
theorem handler_sees_block_stream {failLevel : Level} {files : FileSet σ} {handler : η}
    {opened : Reader σ η} (ok : (openWith failLevel files handler).result = .ok opened)
    (operations : List (Operation η)) :
    (∃ watched, (openWith failLevel files (Watched.mk handler [])).result = .ok watched ∧
      watched.unwatch = opened ∧
      (watched.run (operations.map .watched)).unwatch = opened.run operations ∧
      (watched.run (operations.map .watched)).handler.seen =
        given failLevel files handler operations) ∧
    ∃ fileHeader rawInfo blocks,
      HeaderBlock (.fileHeader opened.fileHeader) fileHeader ∧
      HeaderBlock (.rawInfo opened.rawInfo) rawInfo ∧
      given failLevel files handler [] = [fileHeader, rawInfo] ∧
      given failLevel files handler operations = fileHeader :: rawInfo :: blocks ∧
      Streamed opened operations blocks := by
  obtain ⟨watched, ok', unwatched, _⟩ := openWith_watched ok
  obtain ⟨blocks, all, streamed⟩ := given_streamed ok operations
  refine ⟨⟨watched, ok', unwatched, unwatched ▸ run_unwatch watched operations, ?_⟩,
    _, _, blocks, headerBlock_blank .., headerBlock_blank .., given_preamble ok, all, streamed⟩
  simp only [given, ok']

end

/-- Two frames of three bytes in one file. -/
def twoFrames : FileSet MemoryStream :=
  ⟨[⟨.ofBytes ([0, 1, 2, 3, 4, 5] ++ Footer.plain 3 2), 198⟩]⟩

/-- A handler that rejects the first frame when it is given it first. -/
def rejectsFirstFrame : Recorder := ⟨#[], [⟨.position 2, ⟨"not yet", []⟩⟩]⟩

/-- The first frame is read twice to be handed out, and the second one never. -/
def mixedCalls : List (Operation Recorder) :=
  [.readNext, .readFrame 1, .readNext, .readBlock 7, .frames 2, .close, .readNext]

set_option maxRecDepth 20000 in
theorem twoFrames_opens :
    ∃ opened, (openWith .error twoFrames rejectsFirstFrame).result = .ok opened ∧
      (given .error twoFrames rejectsFirstFrame mixedCalls).map
        (fun block => (block.tag, block.data)) =
        [(.fileHeader, []), (.rawInfo, []), (.videoFrame, [0, 1, 2]), (.videoFrame, [0, 1, 2])] := by
  have evaluated : (openWith .error twoFrames rejectsFirstFrame).result.toOption.map
      (fun _ => (given .error twoFrames rejectsFirstFrame mixedCalls).map
        fun block => (block.tag, block.data)) =
      some [(.fileHeader, []), (.rawInfo, []), (.videoFrame, [0, 1, 2]),
        (.videoFrame, [0, 1, 2])] := by cbv
  exact exists_ok_of_map evaluated

theorem handler_sees_block_stream_two_frames :
    ∃ opened, (openWith .error twoFrames rejectsFirstFrame).result = .ok opened ∧
      ∃ fileHeader rawInfo blocks,
        given .error twoFrames rejectsFirstFrame mixedCalls = fileHeader :: rawInfo :: blocks ∧
        blocks.map (fun block => (block.tag, block.data)) =
          [(.videoFrame, [0, 1, 2]), (.videoFrame, [0, 1, 2])] ∧
        Streamed opened mixedCalls blocks := by
  obtain ⟨opened, ok, data⟩ := twoFrames_opens
  obtain ⟨_, fileHeader, rawInfo, blocks, _, _, _, all, streamed⟩ :=
    handler_sees_block_stream ok mixedCalls
  rw [all] at data
  exact ⟨opened, ok, fileHeader, rawInfo, blocks, all, (List.cons.inj (List.cons.inj data).2).2,
    streamed⟩

end Reader

end RawReel
