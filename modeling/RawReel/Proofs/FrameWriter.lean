import Mathlib
import RawReel.Command.Extract
import RawReel.Proofs.BlockStream
import RawReel.Proofs.Numerals
import RawReel.Proofs.WrittenFiles

/-!
# What a frame writer writes

* `frameFile_injective`: the name of a file tells the number of its frame;
* `FrameWriter.Has`: which files a writer has written, and what it counted;
* `Has.handle_frame`: a frame that it is given becomes one more file;
* `openWith_writer`: a recording that can be opened at all can be opened with a
  writer, which then has written the headers that it was asked for.
-/

namespace RawReel

namespace FrameWriter

/-- The name of the file of frame `n`: its number in decimal, filled up to six
digits at least. -/
def frameFile (n : Nat) : List Char :=
  let digits := Nat.toDigits 10 n
  ['f', 'r', 'a', 'm', 'e', '_'] ++ (List.replicate (6 - digits.length) '0' ++ digits) ++
    ['.', 'r', 'a', 'w']

theorem frameName_eq (n : Nat) : frameName n = frameFile n := by
  rw [frameName, String.toList_append, String.toList_append, Text.toList_paddedNat]
  rfl

/-- **Frames have names of their own.** -/
theorem frameFile_injective : Function.Injective frameFile := by
  intro m n same
  rw [frameFile, frameFile, ← Text.toList_paddedNat, ← Text.toList_paddedNat] at same
  exact Text.paddedNat_injective 6 (List.append_cancel_left (List.append_cancel_right same))

theorem slash_not_mem_frameFile (n : Nat) : '/' ∉ frameFile n := by
  simp only [frameFile, List.mem_append, List.mem_replicate, not_or]
  refine ⟨⟨by decide, by simp, fun among => ?_⟩, by decide⟩
  have digit := Nat.isDigit_of_mem_toDigits (by decide) (by decide) among
  exact absurd digit (by decide)

theorem head?_frameFile (n : Nat) : (frameFile n).head? = some 'f' := rfl

/-- The names of the files of the headers, if they are asked for. -/
def headerNames (headers : Bool) : List (List Char) :=
  if headers then ["header.mlvi".toList, "header.rawi".toList] else []

theorem headerName_fileHeader : headerName .fileHeader = "header.mlvi".toList := by cbv

theorem headerName_rawInfo : headerName .rawInfo = "header.rawi".toList := by cbv

/-- The names of all files that extracting `count` frames from `first` on writes. -/
def outputNames (headers : Bool) (first count : Nat) : List (List Char) :=
  headerNames headers ++ (List.range' first count).map frameFile

theorem frameFile_not_mem_headerNames (n : Nat) (headers : Bool) :
    frameFile n ∉ headerNames headers := by
  intro among
  have initial := head?_frameFile n
  unfold headerNames at among
  split at among
  · obtain same | same := List.mem_pair.mp among <;> rw [same] at initial <;>
      exact absurd initial (by decide)
  · cases among

theorem mem_outputNames {name : List Char} {headers : Bool} {first count : Nat} :
    name ∈ outputNames headers first count ↔
      name ∈ headerNames headers ∨ ∃ n, first ≤ n ∧ n < first + count ∧ frameFile n = name := by
  simp only [outputNames, List.mem_append, List.mem_map, List.mem_range'_1, and_assoc]

theorem outputNames_mono {headers : Bool} {first count more : Nat} (le : count ≤ more)
    {name : List Char} (among : name ∈ outputNames headers first count) :
    name ∈ outputNames headers first more := by
  rw [mem_outputNames] at among ⊢
  obtain header | ⟨n, from_first, before, named⟩ := among
  · exact .inl header
  · exact .inr ⟨n, from_first, by omega, named⟩

theorem plain_of_mem_outputNames {name : List Char} {headers : Bool} {first count : Nat}
    (among : name ∈ outputNames headers first count) : '/' ∉ name ∧ name ≠ [] := by
  obtain header | ⟨n, _, _, rfl⟩ := mem_outputNames.mp among
  · unfold headerNames at header
    split at header
    · obtain rfl | rfl := List.mem_pair.mp header <;> decide
    · cases header
  · exact ⟨slash_not_mem_frameFile n, nofun⟩

/-- **No two outputs share a name.** -/
theorem nodup_outputNames (headers : Bool) (first count : Nat) :
    (outputNames headers first count).Nodup := by
  refine List.Nodup.append ?_ ((List.nodup_range' ..).map frameFile_injective) ?_
  · unfold headerNames
    split <;> decide
  · intro name header frame
    obtain ⟨n, _, rfl⟩ := List.mem_map.mp frame
    exact frameFile_not_mem_headerNames n headers header

/-- The files of the headers, if they are asked for. -/
def headerFiles {σ η : Type} (r : Reader σ η) (headers : Bool) : List (List Char × Bytes) :=
  if headers then
    [("header.mlvi".toList, r.fileHeader.encode), ("header.rawi".toList, r.rawInfo.encode)]
  else []

/-- The files of `count` frames from `first` on. -/
def frameFiles (frame : Nat → Bytes) (first count : Nat) : List (List Char × Bytes) :=
  (List.range' first count).map fun n => (frameFile n, frame n)

theorem frameFiles_succ (frame : Nat → Bytes) (first count : Nat) :
    frameFiles frame first (count + 1) =
      frameFiles frame first count ++ [(frameFile (first + count), frame (first + count))] := by
  rw [frameFiles, List.range'_1_concat, List.map_append]
  rfl

section
variable {σ η : Type} {r : Reader σ η} {headers : Bool} {frame : Nat → Bytes} {first count : Nat}

theorem map_fst_headerFiles : (headerFiles r headers).map Prod.fst = headerNames headers := by
  unfold headerFiles headerNames
  split <;> simp only [List.map_cons, List.map_nil]

theorem map_fst_files :
    (headerFiles r headers ++ frameFiles frame first count).map Prod.fst =
      outputNames headers first count := by
  rw [List.map_append, map_fst_headerFiles, frameFiles, List.map_map, outputNames,
    Function.comp_def]

/-- The size of all files, if all frames are of one size. -/
theorem size_files {frameSize : Nat}
    (whole : ∀ n, first ≤ n → n < first + count → (frame n).length = frameSize) :
    ((headerFiles r headers ++ frameFiles frame first count).map fun file => file.2.length).sum =
      count * frameSize + if headers then 232 else 0 := by
  have headers_size : ((headerFiles r headers).map fun file => file.2.length).sum =
      if headers then 232 else 0 := by
    unfold headerFiles
    split
    · simp only [List.map_cons, List.map_nil, FileHeader.length_encode,
        RawInfoHeader.length_encode, List.sum_cons, List.sum_nil]
      rfl
    · rfl
  have frames_size : (frameFiles frame first count).map (fun file => file.2.length) =
      (List.range' first count).map fun _ => frameSize := by
    rw [frameFiles, List.map_map]
    refine List.map_congr_left fun n among => ?_
    rw [List.mem_range'_1] at among
    exact whole n among.1 among.2
  rw [List.map_append, List.sum_append, headers_size, frames_size, List.map_const',
    List.sum_replicate, List.length_range', smul_eq_mul, Nat.add_comm]

theorem name_mem_of_mem_files {name : List Char} {content : Bytes}
    (written : (name, content) ∈ headerFiles r headers ++ frameFiles frame first count) :
    name ∈ outputNames headers first count := by
  have named := List.mem_map_of_mem (f := Prod.fst) written
  rwa [map_fst_files] at named

theorem frame_not_written (content : Bytes) :
    (frameFile (first + count), content) ∉
      headerFiles r headers ++ frameFiles frame first count := by
  intro written
  obtain header | ⟨n, _, before, same⟩ := mem_outputNames.mp (name_mem_of_mem_files written)
  · exact frameFile_not_mem_headerNames _ _ header
  · exact absurd (frameFile_injective same) (Nat.ne_of_lt before)

end

/-- The writer has written these files, and counted their bytes. -/
structure Has (made : FileTree) (output : Path) (directory : Location) (w : FrameWriter)
    (files : List (List Char × Bytes)) : Prop where
  output_eq : w.output = output
  tree : made.JustWritten w.tree directory files
  targets : ∀ name content, (name, content) ∈ files →
    made.fileTarget (output.join name) = .ok (directory ++ [name])
  bytes_eq : w.bytesWritten = (files.map fun file => file.2.length).sum

section
variable {made : FileTree} {output : Path} {directory : Location} {w : FrameWriter}
  {files : List (List Char × Bytes)}

/-- A file that can be made is written, and counted. -/
theorem Has.writeFile (has : Has made output directory w files) {name : List Char}
    (target : made.fileTarget (output.join name) = .ok (directory ++ [name]))
    (new : ∀ content, (name, content) ∉ files) (content : Bytes) :
    ∃ after, w.writeFile name content =
        ⟨after, .ok (), [.fileWritten (output.join name) content.length]⟩ ∧
      Has made output directory after (files ++ [(name, content)]) ∧
      after.framesWritten = w.framesWritten ∧ after.writesHeaders = w.writesHeaders := by
  have free : ∀ other held, (other, held) ∈ files →
      made.at? (directory ++ [other]) ≠ some .directory := by
    intro other held written
    obtain ⟨_, _, _, _, not_directory⟩ := FileTree.fileTarget_ok (has.targets other held written)
    exact not_directory
  have written : w.tree.writeFile (output.join name) content =
      .ok (w.tree.put (directory ++ [name]) (.file content)) := by
    rw [FileTree.writeFile, has.tree.fileTarget free target]
    rfl
  refine ⟨{ w with
    tree := w.tree.put (directory ++ [name]) (.file content)
    bytesWritten := w.bytesWritten + content.length }, ?_, ⟨has.output_eq,
      has.tree.write new content, ?_, ?_⟩, rfl, rfl⟩
  · simp only [FrameWriter.writeFile, has.output_eq, written]
  · intro other held among
    rw [List.mem_append, List.mem_singleton] at among
    obtain earlier | now := among
    · exact has.targets other held earlier
    · cases now
      exact target
  · rw [List.map_append, List.sum_append, ← has.bytes_eq]
    rfl

/-- **A frame becomes one more file**, of its number and its bytes. -/
theorem Has.handle_frame (has : Has made output directory w files) {block : Block}
    {header : VideoFrameHeader} (is_frame : block.header = .videoFrame header) {n : Nat}
    (number_eq : header.frameNumber.toNat = n)
    (target : made.fileTarget (output.join (frameFile n)) = .ok (directory ++ [frameFile n]))
    (new : ∀ content, (frameFile n, content) ∉ files) :
    (BlockHandler.handle w block).outcome = .ok () ∧
      Has made output directory (BlockHandler.handle w block).handler
        (files ++ [(frameFile n, block.data)]) ∧
      (BlockHandler.handle w block).handler.framesWritten = w.framesWritten + 1 := by
  obtain ⟨after, written, has_after, frames_eq, _⟩ := has.writeFile target new block.data
  have handled : BlockHandler.handle w block =
      countFrame (w.writeFile (frameName header.frameNumber.toNat) block.data) := by
    obtain ⟨block_header, buffer, offset, length⟩ := block
    cases is_frame
    rfl
  rw [handled, number_eq, frameName_eq, written]
  exact ⟨rfl, ⟨has_after.output_eq, has_after.tree, has_after.targets, has_after.bytes_eq⟩,
    congrArg (· + 1) frames_eq⟩

theorem handle_fileHeader (w : FrameWriter) (header : FileHeader) (buffer : FrameBuffer) :
    BlockHandler.handle w ⟨.fileHeader header, buffer, 0, 0⟩ =
      if w.writesHeaders then w.writeFile "header.mlvi".toList header.encode
      else ⟨w, .ok (), []⟩ :=
  headerName_fileHeader ▸ rfl

theorem handle_rawInfo (w : FrameWriter) (header : RawInfoHeader) (buffer : FrameBuffer) :
    BlockHandler.handle w ⟨.rawInfo header, buffer, 0, 0⟩ =
      if w.writesHeaders then w.writeFile "header.rawi".toList header.encode
      else ⟨w, .ok (), []⟩ :=
  headerName_rawInfo ▸ rfl

variable {σ : Type}

/-- A writer writes the headers of a recording just if it was asked for them. -/
theorem introduce_writer {r : Reader σ FrameWriter} (has : Has made output directory r.handler [])
    (targets : ∀ name ∈ headerNames r.handler.writesHeaders,
      made.fileTarget (output.join name) = .ok (directory ++ [name])) :
    ∃ after, (Reader.introduce r).result = .ok { r with handler := after } ∧
      Has made output directory after (headerFiles r r.handler.writesHeaders) ∧
      after.framesWritten = r.handler.framesWritten := by
  cases asked : r.handler.writesHeaders with
  | false =>
    have unasked : ¬ r.handler.writesHeaders = true := Bool.eq_false_iff.mp asked
    have first := (handle_fileHeader r.handler r.fileHeader r.buffer).trans (if_neg unasked)
    have second := (handle_rawInfo r.handler r.rawInfo r.buffer).trans (if_neg unasked)
    exact ⟨r.handler, Reader.introduce_of_accepts first rfl second rfl, has, rfl⟩
  | true =>
    rw [asked] at targets
    obtain ⟨between, first_written, has_first, first_frames, still⟩ :=
      has.writeFile (targets "header.mlvi".toList (by simp [headerNames]))
        (fun _ => List.not_mem_nil) r.fileHeader.encode
    have new : ∀ content, ("header.rawi".toList, content) ∉
        [] ++ [("header.mlvi".toList, r.fileHeader.encode)] := by simp
    obtain ⟨after, second_written, has_both, second_frames, _⟩ :=
      has_first.writeFile (targets "header.rawi".toList (by simp [headerNames])) new
        r.rawInfo.encode
    have first := (handle_fileHeader r.handler r.fileHeader r.buffer).trans
      ((if_pos asked).trans first_written)
    have second := (handle_rawInfo between r.rawInfo r.buffer).trans
      ((if_pos (still.trans asked)).trans second_written)
    exact ⟨after, Reader.introduce_of_accepts first rfl second rfl, has_both,
      second_frames.trans first_frames⟩

variable [ByteStream σ]

/-- **A recording that can be opened can be opened with a writer**, which has
then written the headers, if it was asked for them, and nothing else. -/
theorem openWith_writer {failLevel : Level} {recording : FileSet σ} {opened : Reader σ NullHandler}
    (ok : (Reader.openWith failLevel recording NullHandler.mk).result = .ok opened)
    (has : Has made output directory w [])
    (targets : ∀ name ∈ headerNames w.writesHeaders,
      made.fileTarget (output.join name) = .ok (directory ++ [name])) :
    ∃ after, (Reader.openWith failLevel recording w).result = .ok { opened with handler := after } ∧
      Has made output directory after (headerFiles opened w.writesHeaders) ∧
      after.framesWritten = w.framesWritten := by
  obtain ⟨footer, warning, found, accepted, introduced⟩ := Reader.openWith_eq_ok_iff.mp ok
  obtain ⟨_, rfl⟩ := Reader.introduce_ok introduced
  obtain ⟨after, introduced', written, frames_eq⟩ :=
    introduce_writer (r := .ofFooter (Footer.locate recording).files footer w) has targets
  exact ⟨after, Reader.openWith_eq_ok_iff.mpr ⟨footer, warning, found, accepted, introduced'⟩,
    written, frames_eq⟩

end

end FrameWriter

end RawReel
