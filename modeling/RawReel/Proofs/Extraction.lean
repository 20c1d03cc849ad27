import Mathlib
import RawReel.Proofs.Advancing
import RawReel.Proofs.FrameWriter
import RawReel.Proofs.History
import RawReel.Proofs.OpenFiles
import RawReel.Proofs.Payload

/-!
# Extraction writes just the frames of the range

* `Writable`: the outputs can be written, and the streams of the recording do not
  change by that;
* `Tracks.next`: one frame after the other is read, as it is without a writer,
  and written;
* `fromFiles_extracts`, `fromFiles_stops`: what extraction leaves behind if all
  frames of the range can be read, and if one of them cannot;
* `extracts_just_the_range`: the command, from the paths of its chunks on.
-/

namespace RawReel

/-- What reading a frame gives after those from `first` on were read in turn. -/
def Reader.readInTurn {σ η : Type} [ByteStream σ] [BlockHandler η] (r : Reader σ η)
    (first index : Nat) : Except ReadError Bytes :=
  ((r.readOn first (index - first)).readFrame index).result

namespace Extract

open FrameWriter

/-- The outputs can be made in a directory, and writing some of them does not
change the streams of the recording, however they were read. -/
structure Writable {σ : Type} [ByteStream σ] (look : FileTree → σ → σ) (recording : FileSet σ)
    (made : FileTree) (output : Path) (directory : Location) (names : List (List Char)) : Prop where
  targets : ∀ name ∈ names, made.fileTarget (output.join name) = .ok (directory ++ [name])
  apart : ∀ tree files, made.JustWritten tree directory files →
    (∀ name content, (name, content) ∈ files → name ∈ names) →
    ∀ now, recording.Accessed now → ∀ member ∈ now.members, look tree member.stream = member.stream

section
variable {σ : Type} {look : FileTree → σ → σ}

theorem refresh_eq {r : Reader σ FrameWriter}
    (same : ∀ now ∈ r.files, ∀ member ∈ now.members,
      look r.handler.tree member.stream = member.stream) : refresh look r = r := by
  obtain ⟨files, footer, fileHeader, rawInfo, index, buffer, writer, cursor⟩ := r
  cases files with
  | none => rfl
  | some now =>
    have unchanged : now.members.map (fun member =>
        { member with stream := look writer.tree member.stream }) = now.members := by
      refine (List.map_congr_left fun member among => ?_).trans (List.map_id _)
      rw [same now rfl member among]
      rfl
    simp only [refresh, Reader.mapStreams, Option.map_some, unchanged]

variable [ByteStream σ]

theorem readBlocks_succ_of_true (look : FileTree → σ → σ) {r : Reader σ FrameWriter}
    (more : r.readNext.result = .ok true) (count : Nat) :
    let rest := readBlocks look (refresh look r.readNext.reader) count
    (readBlocks look r (count + 1)).result = rest.result ∧
      (readBlocks look r (count + 1)).reader = rest.reader := by
  simp only [readBlocks, Step.andThen, more, ↓reduceIte, and_self]

theorem readBlocks_succ_of_error (look : FileTree → σ → σ) {r : Reader σ FrameWriter}
    {e : ReadError} (failed : r.readNext.result = .error e) (count : Nat) :
    (readBlocks look r (count + 1)).result = .error e ∧
      (readBlocks look r (count + 1)).reader = r.readNext.reader := by
  simp only [readBlocks, Step.andThen, failed, and_self]

variable {recording : FileSet σ} {made : FileTree} {output : Path} {directory : Location}
  {first count : Nat} {headers : Bool} {opened : Reader σ NullHandler} {frame : Nat → Bytes}
  {failLevel : Level}

/-- Extraction has written `done` frames, and stands where a reader without a
writer would stand. -/
structure Tracks (made : FileTree) (output : Path) (directory : Location) (first : Nat)
    (headers : Bool) (opened : Reader σ NullHandler) (frame : Nat → Bytes)
    (r : Reader σ FrameWriter) (done : Nat) : Prop where
  same : r.mapHandler (fun _ => NullHandler.mk) = opened.readOn first done
  cursor_eq : r.cursor = first + done
  written : Has made output directory r.handler
    (headerFiles opened headers ++ frameFiles frame first done)
  frames_eq : r.handler.framesWritten = done

theorem Tracks.isReady {r : Reader σ FrameWriter} {done : Nat}
    (tracks : Tracks made output directory first headers opened frame r done)
    (ok : (Reader.openWith failLevel recording NullHandler.mk).result = .ok opened) :
    r.isReady = true := by
  have ready : (opened.readOn first done).isReady = true :=
    (Reader.isReady_readOn ..).trans (Reader.openWith_isReady ok)
  rwa [← tracks.same] at ready

theorem Tracks.blockCount_eq {r : Reader σ FrameWriter} {done : Nat}
    (tracks : Tracks made output directory first headers opened frame r done) :
    r.blockCount = opened.blockCount := by
  have count_eq : (opened.readOn first done).blockCount = opened.blockCount :=
    (Reader.readOn_keeps opened first done).blockCount_eq
  rwa [← tracks.same] at count_eq

/-- A frame is read as it is without a writer. -/
theorem Tracks.readFrame_eq {r : Reader σ FrameWriter} {done : Nat}
    (tracks : Tracks made output directory first headers opened frame r done) :
    (r.readFrame r.cursor).result = opened.readInTurn first (first + done) := by
  rw [Reader.readInTurn, Nat.add_sub_cancel_left, ← tracks.same, ← Reader.mapHandler_readFrame,
    tracks.cursor_eq]
  rfl

/-- What was written does not show in the streams. -/
theorem Writable.refresh_eq {names : List (List Char)} {files : List (List Char × Bytes)}
    (writable : Writable look recording made output directory names) {r : Reader σ FrameWriter}
    (written : Has made output directory r.handler files)
    (among : ∀ name content, (name, content) ∈ files → name ∈ names)
    (accessed : ∀ now ∈ r.files, recording.Accessed now) : refresh look r = r :=
  Extract.refresh_eq fun now there =>
    writable.apart _ _ written.tree among now (accessed now there)

theorem Tracks.refresh_eq {r : Reader σ FrameWriter} {done : Nat}
    (writable : Writable look recording made output directory (outputNames headers first count))
    (ok : (Reader.openWith failLevel recording NullHandler.mk).result = .ok opened)
    (tracks : Tracks made output directory first headers opened frame r done)
    (le : done ≤ count) : refresh look r = r := by
  refine writable.refresh_eq tracks.written
    (fun _ _ among => outputNames_mono le (name_mem_of_mem_files among)) ?_
  intro now there
  have bare_ready : (opened.readOn first done).isReady = true := tracks.same ▸ tracks.isReady ok
  obtain ⟨_, there', accessed⟩ :=
    (Reader.readOn_keeps opened first done).files_accessed ok bare_ready
  have files_eq : r.files = (opened.readOn first done).files := congrArg Reader.files tracks.same
  rw [files_eq, there', Option.mem_def, Option.some.injEq] at there
  exact there ▸ accessed

/-- **One more frame is read and written.** -/
theorem Tracks.next {r : Reader σ FrameWriter} {done : Nat}
    (writable : Writable look recording made output directory (outputNames headers first count))
    (ok : (Reader.openWith failLevel recording NullHandler.mk).result = .ok opened)
    (few : opened.blockCount ≤ 2 ^ 32) (within : first + count ≤ opened.blockCount)
    (tracks : Tracks made output directory first headers opened frame r done) (more : done < count)
    (read : opened.readInTurn first (first + done) = .ok (frame (first + done))) :
    r.readNext.result = .ok true ∧
      Tracks made output directory first headers opened frame r.readNext.reader (done + 1) := by
  have ready := tracks.isReady ok
  have left : r.cursor < r.blockCount := by
    rw [tracks.cursor_eq, tracks.blockCount_eq]
    omega
  have read_here := tracks.readFrame_eq.trans read
  have written : ∀ block, Reader.FrameBlock r r.cursor (frame (first + done)) block →
      (BlockHandler.handle r.handler block).outcome = .ok () ∧
      Has made output directory (BlockHandler.handle r.handler block).handler
        (headerFiles opened headers ++ frameFiles frame first (done + 1)) ∧
      (BlockHandler.handle r.handler block).handler.framesWritten = done + 1 := by
    intro block shows
    obtain ⟨_, header, _, is_frame, _, number, _⟩ := shows.header
    have number_eq : header.frameNumber.toNat = first + done := by
      rw [number, tracks.cursor_eq]
      omega
    have target := writable.targets (frameFile (first + done))
      (mem_outputNames.mpr (.inr ⟨_, Nat.le_add_right .., Nat.add_lt_add_left more _, rfl⟩))
    have handled := tracks.written.handle_frame is_frame number_eq target frame_not_written
    rw [shows.data_eq, List.append_assoc, ← frameFiles_succ, tracks.frames_eq] at handled
    exact handled
  obtain ⟨block, shows, result, reader_eq⟩ :=
    Reader.readNext_of_accepts ready left read_here fun block shows => (written block shows).1
  obtain ⟨_, has, frames_eq⟩ := written block shows
  -- The reader without a writer makes the same step, since its handler accepts all.
  let bare := r.mapHandler fun _ => NullHandler.mk
  have bare_read : (bare.readFrame bare.cursor).result = .ok (frame (first + done)) :=
    (congrArg Step.result (Reader.mapHandler_readFrame _ r r.cursor)).symm.trans read_here
  obtain ⟨_, _, _, bare_eq⟩ := Reader.readNext_of_accepts (r := bare) ready left bare_read
    fun _ _ => rfl
  refine ⟨result, ?_, ?_, ?_, ?_⟩
  · rw [Reader.readOn_succ, ← tracks.same, bare_eq, reader_eq, ← Reader.mapHandler_readFrame]
    rfl
  · rw [reader_eq, tracks.cursor_eq, Nat.add_assoc]
  · rw [reader_eq]
    exact has
  · rw [reader_eq]
    exact frames_eq

/-- **As many frames are written as can be read.** What extraction does after
that, it does where a reader without a writer would stand. -/
theorem readBlocks_advance {start : Reader σ FrameWriter} {done : Nat}
    (writable : Writable look recording made output directory (outputNames headers first count))
    (ok : (Reader.openWith failLevel recording NullHandler.mk).result = .ok opened)
    (few : opened.blockCount ≤ 2 ^ 32) (within : first + count ≤ opened.blockCount)
    (tracks : Tracks made output directory first headers opened frame start 0) (le : done ≤ count)
    (read : ∀ index, first ≤ index → index < first + done →
      opened.readInTurn first index = .ok (frame index)) :
    ∃ r, Tracks made output directory first headers opened frame r done ∧
      (readBlocks look start count).result = (readBlocks look r (count - done)).result ∧
      (readBlocks look start count).reader = (readBlocks look r (count - done)).reader := by
  induction done with
  | zero => exact ⟨start, tracks, rfl, rfl⟩
  | succ done ih =>
    obtain ⟨r, tracks_r, result, reader⟩ := ih (Nat.le_of_succ_le le)
      fun index from_first before => read index from_first (Nat.lt_succ_of_lt before)
    obtain ⟨more, tracks_next⟩ := tracks_r.next writable ok few within le
      (read (first + done) (Nat.le_add_right ..) (Nat.lt_succ_self _))
    have left : count - done = count - (done + 1) + 1 := by omega
    obtain ⟨result_next, reader_next⟩ := readBlocks_succ_of_true look more (count - (done + 1))
    rw [tracks_next.refresh_eq writable ok le, ← left] at result_next reader_next
    exact ⟨_, tracks_next, result.trans result_next, reader.trans reader_next⟩

/-- A frame that cannot be read ends the loop, and is not written. -/
theorem Tracks.stops {r : Reader σ FrameWriter} {done : Nat} {e : ReadError}
    (tracks : Tracks made output directory first headers opened frame r done)
    (ok : (Reader.openWith failLevel recording NullHandler.mk).result = .ok opened)
    (within : first + done < opened.blockCount)
    (failed : opened.readInTurn first (first + done) = .error e) (more : Nat) :
    (readBlocks look r (more + 1)).result = .error e ∧
      (readBlocks look r (more + 1)).reader.handler = r.handler := by
  have failed_here := tracks.readFrame_eq.trans failed
  cases Reader.readNext_next (tracks.isReady ok) with
  | past none_left =>
    rw [tracks.cursor_eq, tracks.blockCount_eq] at none_left
    exact absurd within (Nat.not_lt.mpr none_left)
  | unread _ unread result unasked =>
    cases unread.symm.trans failed_here
    obtain ⟨result_eq, reader_eq⟩ := readBlocks_succ_of_error look result more
    rw [result_eq, reader_eq, unasked, Reader.readFrame_handler]
    exact ⟨rfl, rfl⟩
  | rejected _ read | accepted _ read => cases read.symm.trans failed_here

end

/-- The frame behind the last one to extract, out of `total`. -/
def last (first : Nat) (count : Option Nat) (total : Nat) : Nat :=
  count.elim total fun n => min (first + n) total

theorem last_le (first : Nat) (count : Option Nat) (total : Nat) :
    last first count total ≤ total := by
  cases count with
  | none => exact Nat.le_refl total
  | some n => exact Nat.min_le_right ..

theorem first_le_last {first total : Nat} (inside : first < total) (count : Option Nat) :
    first ≤ last first count total := by
  cases count with
  | none => exact Nat.le_of_lt inside
  | some n => exact Nat.le_min.mpr ⟨Nat.le_add_right .., Nat.le_of_lt inside⟩

theorem range_of_lt {first total : Nat} (inside : first < total) (count : Option Nat) :
    range first count total = .ok (first, last first count total) :=
  if_neg (Nat.not_le.mpr inside)

/-- Just these files were written, each under a name of its own in the output
directory. -/
def Wrote (made : FileTree) (output : Path) (files : List (List Char × Bytes))
    (after : FileTree) : Prop :=
  (files.map Prod.fst).Nodup ∧
  ∃ directory, (∀ name content, (name, content) ∈ files →
      made.fileTarget (output.join name) = .ok (directory ++ [name])) ∧
    made.JustWritten after directory files

theorem wrote_of_has {σ η : Type} {made : FileTree} {output : Path} {directory : Location}
    {w : FrameWriter} {opened : Reader σ η} {headers : Bool} {frame : Nat → Bytes}
    {first extracted : Nat}
    (written : Has made output directory w
      (headerFiles opened headers ++ frameFiles frame first extracted)) :
    Wrote made output (headerFiles opened headers ++ frameFiles frame first extracted) w.tree :=
  ⟨map_fst_files ▸ nodup_outputNames .., directory, written.targets, written.tree⟩

/-- What extraction leaves behind if every frame of the range can be read: no
frame, if the range starts behind the last frame, and all frames of the range
otherwise. The headers are written in either case, if they are asked for. -/
structure Extracts {σ η : Type} (made : FileTree) (output : Path) (opened : Reader σ η)
    (headers : Bool) (first : Nat) (count : Option Nat) (frame : Nat → Bytes)
    (outcome : CommandOutcome) : Prop where
  out_of_range : opened.blockCount ≤ first →
    (∃ failure, outcome.result = .error (.own failure)) ∧
    Wrote made output (headerFiles opened headers ++ frameFiles frame first 0) outcome.tree
  in_range : first < opened.blockCount →
    let extracted := last first count opened.blockCount - first
    outcome.result = .ok () ∧
    Wrote made output (headerFiles opened headers ++ frameFiles frame first extracted)
      outcome.tree ∧
    outcome.log.getLast? = some (.extracted extracted
      (extracted * opened.frameSize + if headers then 232 else 0))

/-- What was reported before does not matter. -/
theorem Extracts.withLog {σ η : Type} {made : FileTree} {output : Path} {opened : Reader σ η}
    {headers : Bool} {first : Nat} {count : Option Nat} {frame : Nat → Bytes}
    {outcome : CommandOutcome}
    (extracts : Extracts made output opened headers first count frame outcome) (log : Log) :
    Extracts made output opened headers first count frame
      { outcome with log := log ++ outcome.log } where
  out_of_range := extracts.out_of_range
  in_range := by
    intro inside extracted
    obtain ⟨succeeds, wrote, reported⟩ := extracts.in_range inside
    refine ⟨succeeds, wrote, ?_⟩
    rw [List.getLast?_append, reported, Option.some_or]

section
variable {σ : Type} [ByteStream σ] {look : FileTree → σ → σ} {recording : FileSet σ}
  {made : FileTree} {output : Path} {directory : Location} {first : Nat} {count : Option Nat}
  {headers : Bool} {opened : Reader σ NullHandler} {frame : Nat → Bytes} {failLevel : Level}

theorem extractRange_of_ok (look : FileTree → σ → σ) {r : Reader σ FrameWriter}
    {first last : Nat}
    (read : (readBlocks look (r.setCursor first) (last - first)).result = .ok ()) :
    let w := (readBlocks look (r.setCursor first) (last - first)).reader.handler
    let outcome := extractRange look r first last
    outcome.result = .ok () ∧ outcome.tree = w.tree ∧
      outcome.log.getLast? = some (.extracted w.framesWritten w.bytesWritten) := by
  simp only [extractRange, read, List.getLast?_concat, Reader.close, and_self]

theorem extractRange_of_error (look : FileTree → σ → σ) {r : Reader σ FrameWriter}
    {first last : Nat} {e : ReadError}
    (failed : (readBlocks look (r.setCursor first) (last - first)).result = .error e) :
    (extractRange look r first last).result = .error (.read e) ∧
      (extractRange look r first last).tree =
        (readBlocks look (r.setCursor first) (last - first)).reader.handler.tree := by
  simp only [extractRange, failed, and_self]

/-- What was read in turn is a whole frame. -/
theorem length_of_readInTurn {index : Nat} {data : Bytes}
    (read : opened.readInTurn first index = .ok data) : data.length = opened.frameSize := by
  obtain ⟨_, contents⟩ := Reader.readFrame_ok read
  rw [← contents, FrameBuffer.length_contents,
    ← (Reader.readOn_keeps opened first (index - first)).frameSize_eq]
  exact (Reader.readFrame_keeps _ index).frameSize_eq

/-- On files that are as they were measured, each frame is its stretch of them. -/
theorem readInTurn_payload {contents : List Bytes} (holds : recording.Holds contents)
    (lengths : recording.lengths = contents.map List.length)
    (ok : (Reader.openWith failLevel recording NullHandler.mk).result = .ok opened)
    {index : Nat} (indexed : index < opened.blockCount) :
    opened.readInTurn first index =
        .ok ((contents.flatten.drop (index * opened.frameSize)).take opened.frameSize) ∧
      (index + 1) * opened.frameSize + Footer.size ≤ contents.flatten.length := by
  have keeps := Reader.readOn_keeps opened first (index - first)
  have ready : (opened.readOn first (index - first)).isReady = true :=
    (Reader.isReady_readOn ..).trans (Reader.openWith_isReady ok)
  have payload := keeps.readFrame_payload holds lengths ok ready (keeps.blockCount_eq ▸ indexed)
  rwa [keeps.frameSize_eq] at payload

/-- A recording is opened with the writer, which has then written the headers. -/
theorem opens_with_writer {extracted : Nat}
    (writable : Writable look recording made output directory (outputNames headers first extracted))
    (ok : (Reader.openWith failLevel recording NullHandler.mk).result = .ok opened) :
    ∃ w, (Reader.openWith failLevel recording ⟨made, output, headers, 0, 0⟩).result =
        .ok { opened with handler := w } ∧
      Has made output directory w (headerFiles opened headers) ∧ w.framesWritten = 0 ∧
      refresh look { opened with handler := w } = { opened with handler := w } := by
  have nothing : Has made output directory ⟨made, output, headers, 0, 0⟩ [] :=
    ⟨rfl, .nothing made directory, fun _ _ written => absurd written List.not_mem_nil, rfl⟩
  obtain ⟨w, opens, has, frames_eq⟩ := openWith_writer ok nothing fun name header =>
    writable.targets name (List.mem_append_left _ header)
  obtain ⟨_, start, start_eq, accessed⟩ := Reader.openWith_laid ok
  refine ⟨w, opens, has, frames_eq, writable.refresh_eq has ?_ ?_⟩
  · intro name content written
    have header := List.mem_map_of_mem (f := Prod.fst) written
    rw [map_fst_headerFiles] at header
    exact List.mem_append_left _ header
  · intro now there
    rw [start_eq, Option.mem_def, Option.some.injEq] at there
    exact there ▸ accessed

/-- What extraction does with a range that starts at a frame of the recording. -/
theorem fromFiles_of_lt
    (writable : Writable look recording made output directory
      (outputNames headers first (last first count opened.blockCount - first)))
    (ok : (Reader.openWith failLevel recording NullHandler.mk).result = .ok opened)
    (inside : first < opened.blockCount) :
    ∃ w : FrameWriter, ∃ log : Log,
      Tracks made output directory first headers opened frame
        (Reader.setCursor { opened with handler := w } first) 0 ∧
      fromFiles look failLevel recording ⟨made, output, headers, 0, 0⟩ first count =
        let outcome := extractRange look { opened with handler := w } first
          (last first count opened.blockCount)
        { outcome with log := log ++ outcome.log } := by
  obtain ⟨w, opens, has, frames_eq, looked⟩ := opens_with_writer writable ok
  refine ⟨w, (Reader.openWith failLevel recording (FrameWriter.mk made output headers 0 0)).log,
    ⟨rfl, rfl, ?_, frames_eq⟩, ?_⟩
  · have no_frame : frameFiles frame first 0 = [] := rfl
    rw [no_frame, List.append_nil]
    exact has
  · have count_eq : Reader.blockCount { opened with handler := w } = opened.blockCount := rfl
    simp only [fromFiles, opens, count_eq, range_of_lt inside count, looked]

/-- **Extraction writes the range**, if all of its frames can be read. -/
theorem fromFiles_extracts
    (writable : Writable look recording made output directory
      (outputNames headers first (last first count opened.blockCount - first)))
    (ok : (Reader.openWith failLevel recording NullHandler.mk).result = .ok opened)
    (few : opened.blockCount ≤ 2 ^ 32)
    (read : ∀ index, first ≤ index → index < last first count opened.blockCount →
      opened.readInTurn first index = .ok (frame index)) :
    Extracts made output opened headers first count frame
      (fromFiles look failLevel recording ⟨made, output, headers, 0, 0⟩ first count) where
  out_of_range := by
    intro outside
    obtain ⟨w, opens, has, _, _⟩ := opens_with_writer writable ok
    have count_eq : Reader.blockCount { opened with handler := w } = opened.blockCount := rfl
    have refused : range first count opened.blockCount = .error _ := if_pos outside
    have no_frame : frameFiles frame first 0 = [] := rfl
    simp only [fromFiles, opens, count_eq, refused]
    exact ⟨⟨_, rfl⟩, wrote_of_has (by rwa [no_frame, List.append_nil])⟩
  in_range := by
    intro inside extracted
    have from_first := first_le_last inside count
    have to_last : first + extracted = last first count opened.blockCount :=
      Nat.add_sub_of_le from_first
    have within : first + extracted ≤ opened.blockCount := to_last ▸ last_le first count _
    obtain ⟨w, log, tracks, outcome_eq⟩ := fromFiles_of_lt writable ok inside
    obtain ⟨r, tracks_r, result, reader⟩ :=
      readBlocks_advance writable ok few within tracks (Nat.le_refl _)
        fun index from_first before => read index from_first (to_last ▸ before)
    rw [Nat.sub_self] at result reader
    obtain ⟨succeeds, tree_eq, log_eq⟩ := extractRange_of_ok look result
    rw [reader] at tree_eq log_eq
    rw [outcome_eq]
    refine ⟨succeeds, tree_eq ▸ wrote_of_has tracks_r.written, ?_⟩
    have bytes_eq := tracks_r.written.bytes_eq
    rw [size_files fun index from_first before =>
      length_of_readInTurn (read index from_first (to_last ▸ before))] at bytes_eq
    rw [List.getLast?_append, log_eq, Option.some_or, ← bytes_eq]
    exact congrArg (fun frames => some (Diagnostic.extracted frames r.handler.bytesWritten))
      tracks_r.frames_eq

/-- **Extraction stops at a frame that cannot be read**, and has then written the
frames in front of it. -/
theorem fromFiles_stops {k : Nat} {e : ReadError}
    (writable : Writable look recording made output directory
      (outputNames headers first (last first count opened.blockCount - first)))
    (ok : (Reader.openWith failLevel recording NullHandler.mk).result = .ok opened)
    (few : opened.blockCount ≤ 2 ^ 32) (from_first : first ≤ k)
    (before_last : k < last first count opened.blockCount)
    (read : ∀ index, first ≤ index → index < k →
      opened.readInTurn first index = .ok (frame index))
    (failed : opened.readInTurn first k = .error e) :
    let outcome := fromFiles look failLevel recording ⟨made, output, headers, 0, 0⟩ first count
    outcome.result = .error (.read e) ∧
      Wrote made output (headerFiles opened headers ++ frameFiles frame first (k - first))
        outcome.tree := by
  have to_total := last_le first count opened.blockCount
  have inside : first < opened.blockCount := by omega
  have to_k : first + (k - first) = k := Nat.add_sub_of_le from_first
  obtain ⟨w, log, tracks, outcome_eq⟩ := fromFiles_of_lt writable ok inside
  have some_left : k - first ≤ last first count opened.blockCount - first := by omega
  obtain ⟨r, tracks_r, result, reader⟩ :=
    readBlocks_advance writable ok few (by omega) tracks some_left
      fun index from_first before => read index from_first (to_k ▸ before)
  have more : last first count opened.blockCount - first - (k - first) =
      last first count opened.blockCount - k - 1 + 1 := by omega
  obtain ⟨stops, handler_eq⟩ := tracks_r.stops ok (by omega) (to_k.symm ▸ failed)
    (last first count opened.blockCount - k - 1)
  rw [more] at result reader
  obtain ⟨fails, tree_eq⟩ := extractRange_of_error look (result.trans stops)
  rw [reader, handler_eq] at tree_eq
  rw [outcome_eq]
  exact ⟨fails, tree_eq ▸ wrote_of_has tracks_r.written⟩

end

/-- Chunks that are no outputs stay what they are while the outputs are written. -/
theorem writable_of_apart {made : FileTree} {input output : Path} {recording : Chunk.Recording}
    {directory : Location} {names : List (List Char)}
    (found : (Chunk.openRecording made input).value = .ok recording)
    (targets : ∀ name ∈ names, made.fileTarget (output.join name) = .ok (directory ++ [name]))
    (apart : ∀ path ∈ recording.paths, ∀ name ∈ names,
      made.find path ≠ made.fileTarget (output.join name)) :
    Writable OpenFile.refresh recording.files made output directory names where
  targets := targets
  apart := by
    intro tree files just among now accessed member there
    obtain ⟨opened, chunks, _, _, stands⟩ := Chunk.openRecording_holds found
    obtain ⟨file, opened_file, p, stands⟩ := stands now accessed member there
    obtain ⟨path, on_path, open_eq⟩ := exists_of_forall₂ chunks.flip opened_file
    obtain ⟨found_path, held, _⟩ := FileTree.openFile_ok open_eq
    have still : tree.at? file.location = some (.file file.content) := by
      rw [just.elsewhere file.location ?_, held]
      rintro name content written same
      apply apart path on_path name (among name content written)
      rw [found_path, targets name (among name content written), same]
    exact OpenFile.refresh_eq stands (by rw [FileTree.contentAt, still])

/-- **Extraction writes just the frames of the range.** On a recording whose chunks
are no outputs, and whose outputs can be written, each frame of the range becomes
one file, of its number and its stretch of the joined chunks, the headers are
written if they are asked for, and no other file is touched; a range that starts
behind the last frame fails. If a frame cannot be read, as may be the case with
files of other kinds, extraction fails with the error of the first such frame, and
has written just the frames in front of it. -/
theorem extracts_just_the_range {made : FileTree} {output : Path} {failLevel : Level}
    {first : Nat} {count : Option Nat} {headers : Bool} :
    (∀ {tree : FileTree} {input : Path} {recording : Chunk.Recording}
        {opened : Reader OpenFile NullHandler},
      tree.makeDirectories output = (made, .ok ()) →
      (Chunk.openRecording made input).value = .ok recording →
      (Reader.openWith failLevel recording.files NullHandler.mk).result = .ok opened →
      opened.blockCount ≤ 2 ^ 32 →
      let names := outputNames headers first (last first count opened.blockCount - first)
      (∀ name ∈ names, ∃ location, made.fileTarget (output.join name) = .ok location) →
      (∀ path ∈ recording.paths, ∀ name ∈ names,
        made.find path ≠ made.fileTarget (output.join name)) →
      tree.SameFiles made ∧
      opened.fileHeader.encode.length = 52 ∧ opened.rawInfo.encode.length = 180 ∧
      ∃ contents, List.Forall₂ (fun path content => made.readFile path = .ok content)
          recording.paths contents ∧
        (∀ index < opened.blockCount, (index + 1) * opened.frameSize ≤ contents.flatten.length) ∧
        Extracts made output opened headers first count
          (fun index => (contents.flatten.drop (index * opened.frameSize)).take opened.frameSize)
          (run tree failLevel input output first count headers)) ∧
    ∀ {σ : Type} [ByteStream σ] {recording : FileSet σ} {opened : Reader σ NullHandler}
        {frame : Nat → Bytes},
      (Reader.openWith failLevel recording NullHandler.mk).result = .ok opened →
      opened.blockCount ≤ 2 ^ 32 →
      (∀ name ∈ outputNames headers first (last first count opened.blockCount - first),
        ∃ location, made.fileTarget (output.join name) = .ok location) →
      let outcome := fromFiles (fun _ stream => stream) failLevel recording
        ⟨made, output, headers, 0, 0⟩ first count
      ((∀ index, first ≤ index → index < last first count opened.blockCount →
          opened.readInTurn first index = .ok (frame index)) →
        Extracts made output opened headers first count frame outcome) ∧
      ∀ k e, first ≤ k → k < last first count opened.blockCount →
        (∀ index, first ≤ index → index < k →
          opened.readInTurn first index = .ok (frame index)) →
        opened.readInTurn first k = .error e →
        outcome.result = .error (.read e) ∧
        Wrote made output (headerFiles opened headers ++ frameFiles frame first (k - first))
          outcome.tree := by
  constructor
  · intro tree input recording opened made_eq found ok few names can_write apart
    obtain ⟨directory, targets⟩ :=
      FileTree.exists_directory (fun _ among => plain_of_mem_outputNames among) can_write
    have writable := writable_of_apart found targets apart
    obtain ⟨files, chunks, holds, lengths, _⟩ := Chunk.openRecording_holds found
    have frames : ∀ index < opened.blockCount,
        opened.readInTurn first index = .ok (((files.map (·.content)).flatten.drop
          (index * opened.frameSize)).take opened.frameSize) ∧
        (index + 1) * opened.frameSize + Footer.size ≤ (files.map (·.content)).flatten.length :=
      fun index indexed => readInTurn_payload holds lengths ok indexed
    have same_files := FileTree.makeDirectories_sameFiles tree output
    rw [made_eq] at same_files
    refine ⟨same_files, FileHeader.length_encode _, RawInfoHeader.length_encode _,
      files.map (·.content), ?_,
      fun index indexed => Nat.le_of_add_right_le (frames index indexed).2, ?_⟩
    · rw [List.forall₂_map_right_iff]
      exact chunks.imp fun path file open_eq => (FileTree.openFile_ok open_eq).2.2
    · have extracts := fromFiles_extracts writable ok few fun index _ before_last =>
        (frames index (Nat.lt_of_lt_of_le before_last (last_le ..))).1
      simp only [run, made_eq, found]
      exact extracts.withLog _
  · intro σ _ recording opened frame ok few can_write
    obtain ⟨directory, targets⟩ :=
      FileTree.exists_directory (fun _ among => plain_of_mem_outputNames among) can_write
    have writable : Writable (fun _ stream => stream) recording made output directory
        (outputNames headers first (last first count opened.blockCount - first)) :=
      ⟨targets, fun _ _ _ _ _ _ _ _ => rfl⟩
    exact ⟨fromFiles_extracts writable ok few,
      fun k e from_first before_last read failed =>
        fromFiles_stops writable ok few from_first before_last read failed⟩

/-- Two chunks of a recording of three frames, in a working directory. -/
def camera : FileTree where
  nodes := [(["reel".toList], .directory),
    (["reel".toList, "A.RAW".toList], .file [0, 1, 2, 3, 4]),
    (["reel".toList, "A.R00".toList], .file ([5, 6, 7, 8] ++ Footer.plain 3 3))]
  workingDirectory := ["reel".toList]

def outDirectory : Path := .ofString "out/"

/-- The tree after the output directory was made. -/
def prepared : FileTree := camera.put ["reel".toList, "out".toList] .directory

theorem camera_prepared : camera.makeDirectories outDirectory = (prepared, .ok ()) := by cbv

theorem prepared_targets (headers : Bool) (first count : Nat) (few : first + count ≤ 3) :
    ∀ name ∈ outputNames headers first count,
      prepared.fileTarget (outDirectory.join name) =
        .ok (["reel".toList, "out".toList] ++ [name]) := by
  intro name among
  obtain header | ⟨n, _, before, rfl⟩ := mem_outputNames.mp among
  · unfold headerNames at header
    split at header
    · obtain rfl | rfl := List.mem_pair.mp header <;> cbv
    · cases header
  · have small : n < 3 := by omega
    interval_cases n <;> cbv

set_option maxRecDepth 20000 in
theorem camera_opens :
    ∃ recording opened, (Chunk.openRecording prepared (.ofString "A.R00")).value = .ok recording ∧
      recording.paths = [.ofString "A.RAW", .ofString "A.R00"] ∧
      (Reader.openWith .error recording.files NullHandler.mk).result = .ok opened ∧
      opened.blockCount = 3 ∧ opened.frameSize = 3 := by
  have evaluated : (Chunk.openRecording prepared (.ofString "A.R00")).value.toOption.map
      (fun recording => (recording.paths,
        (Reader.openWith .error recording.files NullHandler.mk).result.toOption.map
          fun opened => (opened.blockCount, opened.frameSize))) =
      some ([.ofString "A.RAW", .ofString "A.R00"], some (3, 3)) := by cbv
  obtain ⟨recording, found, evaluated⟩ := exists_ok_of_map evaluated
  obtain ⟨paths_eq, evaluated⟩ := Prod.mk.inj evaluated
  obtain ⟨opened, ok, evaluated⟩ := exists_ok_of_map evaluated
  obtain ⟨count_eq, frameSize_eq⟩ := Prod.mk.inj evaluated
  exact ⟨recording, opened, found, paths_eq, ok, count_eq, frameSize_eq⟩

set_option maxRecDepth 20000 in
/-- The second frame of a worn recording cannot be read. -/
theorem worn_stops :
    ∃ recording opened, FileSet.ofStreams Reader.worn = .ok recording ∧
      (Reader.openWith .error recording NullHandler.mk).result = .ok opened ∧
      opened.blockCount = 4 ∧ opened.readInTurn 0 0 = .ok [0, 1, 2] ∧
      opened.readInTurn 0 1 = .error (.io MemoryStream.readFailure) := by
  have evaluated : (FileSet.ofStreams Reader.worn).toOption.map (fun recording =>
      (Reader.openWith .error recording NullHandler.mk).result.toOption.map fun opened =>
        (opened.blockCount, opened.readInTurn 0 0, opened.readInTurn 0 1)) =
      some (some (4, .ok [0, 1, 2], .error (.io MemoryStream.readFailure))) := by cbv
  obtain ⟨recording, measured, evaluated⟩ := exists_ok_of_map evaluated
  obtain ⟨opened, ok, evaluated⟩ := exists_ok_of_map evaluated
  simp only [Prod.mk.injEq] at evaluated
  exact ⟨recording, opened, measured, ok, evaluated⟩

set_option maxRecDepth 20000 in
theorem extracts_just_the_range_two_chunks :
    (∃ recording opened, (Chunk.openRecording prepared (.ofString "A.R00")).value = .ok recording ∧
      (Reader.openWith .error recording.files NullHandler.mk).result = .ok opened ∧
      let outcome := run camera .error (.ofString "A.R00") outDirectory 1 (some (2 ^ 64 - 1)) true
      outcome.result = .ok () ∧
      Wrote prepared outDirectory (headerFiles opened true ++
        [("frame_000001.raw".toList, [3, 4, 5]), ("frame_000002.raw".toList, [6, 7, 8])])
        outcome.tree ∧
      outcome.log.getLast? = some (.extracted 2 238)) ∧
    ∃ recording opened, FileSet.ofStreams Reader.worn = .ok recording ∧
      (Reader.openWith .error recording NullHandler.mk).result = .ok opened ∧
      let outcome := fromFiles (fun _ stream => stream) .error recording
        ⟨prepared, outDirectory, false, 0, 0⟩ 0 (some 2)
      outcome.result = .error (.read (.io MemoryStream.readFailure)) ∧
      Wrote prepared outDirectory [("frame_000000.raw".toList, [0, 1, 2])] outcome.tree := by
  constructor
  · obtain ⟨recording, opened, found, paths_eq, ok, count_eq, frameSize_eq⟩ := camera_opens
    have extent : last 1 (some (2 ^ 64 - 1)) opened.blockCount - 1 = 2 := by rw [count_eq]; rfl
    obtain ⟨whole, _⟩ :=
      @extracts_just_the_range prepared outDirectory .error 1 (some (2 ^ 64 - 1)) true
    obtain ⟨_, _, _, contents, held, _, extracts⟩ := whole camera_prepared found ok
      (by rw [count_eq]; decide)
      (by rw [extent]; exact fun name among =>
        ⟨_, prepared_targets true 1 2 (by decide) name among⟩)
      (by
        rw [extent, paths_eq]
        intro path on_path name among
        rw [prepared_targets true 1 2 (by decide) name among]
        obtain rfl | rfl := List.mem_pair.mp on_path
        · have elsewhere : prepared.find (.ofString "A.RAW") =
            .ok ["reel".toList, "A.RAW".toList] := by cbv
          rw [elsewhere]
          simp
        · have elsewhere : prepared.find (.ofString "A.R00") =
            .ok ["reel".toList, "A.R00".toList] := by cbv
          rw [elsewhere]
          simp)
    rw [paths_eq] at held
    obtain ⟨first, _, first_held, later, rfl⟩ := List.forall₂_cons_left_iff.mp held
    obtain ⟨second, _, second_held, nothing, rfl⟩ := List.forall₂_cons_left_iff.mp later
    cases nothing
    have first_eq : prepared.readFile (.ofString "A.RAW") = .ok [0, 1, 2, 3, 4] := by cbv
    have second_eq : prepared.readFile (.ofString "A.R00") =
      .ok ([5, 6, 7, 8] ++ Footer.plain 3 3) := by cbv
    cases first_eq.symm.trans first_held
    cases second_eq.symm.trans second_held
    obtain ⟨succeeds, wrote, reported⟩ := extracts.in_range (by rw [count_eq]; decide)
    rw [extent, frameSize_eq] at wrote reported
    have frames : frameFiles (fun index => ([[0, 1, 2, 3, 4], [5, 6, 7, 8] ++
        Footer.plain 3 3].flatten.drop (index * 3)).take 3) 1 2 =
      [("frame_000001.raw".toList, [3, 4, 5]), ("frame_000002.raw".toList, [6, 7, 8])] := by cbv
    rw [frames] at wrote
    exact ⟨recording, opened, found, ok, succeeds, wrote, reported⟩
  · obtain ⟨recording, opened, measured, ok, count_eq, read, failed⟩ := worn_stops
    have extent : last 0 (some 2) opened.blockCount = 2 := by rw [count_eq]; rfl
    have frame_eq : frameFiles (fun _ => [0, 1, 2]) 0 (1 - 0) =
      [("frame_000000.raw".toList, [0, 1, 2])] := by cbv
    obtain ⟨_, whole⟩ := @extracts_just_the_range prepared outDirectory .error 0 (some 2) false
    obtain ⟨_, stops⟩ := @whole _ _ recording opened (fun _ => [0, 1, 2]) ok
      (by rw [count_eq]; decide)
      (by rw [extent]; exact fun name among =>
        ⟨_, prepared_targets false 0 2 (by decide) name among⟩)
    obtain ⟨fails, wrote⟩ := stops 1 _ (by decide) (by rw [extent]; decide)
      (fun index _ before => by
        obtain rfl : index = 0 := by omega
        exact read) failed
    rw [frame_eq] at wrote
    exact ⟨recording, opened, measured, ok, fails, wrote⟩

end Extract

end RawReel
