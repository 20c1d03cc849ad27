import Mathlib
import RawReel.Proofs.BlockStream
import RawReel.Proofs.Payload

/-!
# How a recording is split does not matter

The same bytes can be cut into files in many ways.

* `Recorded.locate`, `Recorded.survey_eq`: the footer is found and judged by the
  joined bytes alone;
* `openWith_alike`: two ways to cut the same bytes are opened or refused alike;
* `given_readBlock`: a block that hands out a frame has the joined bytes in it;
* `split_does_not_matter`: two ways to cut the same bytes give the same blocks,
  but for the number of files in the file header.
-/

namespace RawReel

/-- The block with another number of files in it, if it has one. -/
def Block.withFileCount (count : UInt16) (block : Block) : Block :=
  match block.header with
  | .fileHeader h => { block with header := .fileHeader { h with fileCount := count } }
  | .rawInfo _ | .videoFrame _ => block

/-- A handler does not look at the number of files. -/
def IgnoresFileCount (η : Type) [BlockHandler η] : Prop :=
  ∀ (handler : η) (block : Block) (count : UInt16),
    BlockHandler.handle handler (block.withFileCount count) = BlockHandler.handle handler block

/-- Both fail with the same error, or both succeed with related values. -/
inductive Alike {α β : Type} (related : α → β → Prop) :
    Except ReadError α → Except ReadError β → Prop
  | failed (e : ReadError) : Alike related (.error e) (.error e)
  | succeeded {a : α} {b : β} (same : related a b) : Alike related (.ok a) (.ok b)

theorem Alike.imp {α β : Type} {R S : α → β → Prop} {a : Except ReadError α}
    {b : Except ReadError β} (alike : Alike R a b)
    (weaker : ∀ x y, a = .ok x → b = .ok y → R x y → S x y) : Alike S a b := by
  cases alike with
  | failed e => exact .failed e
  | succeeded same => exact .succeeded (weaker _ _ rfl rfl same)

section
variable {σ : Type} [ByteStream σ]

theorem FileSet.Accessed.size_eq {files after : FileSet σ} (h : files.Accessed after) :
    after.size = files.size := size_eq_of_lengths h.lengths_eq

/-- Files that are as long as they were measured, the last of them long enough
to end in a footer. -/
structure Recorded (files : FileSet σ) (contents : List Bytes) : Prop where
  holds : files.Holds contents
  lengths_eq : files.lengths = contents.map List.length
  footer_fits : ∃ last, contents.getLast? = some last ∧ Footer.size ≤ last.length

/-- **The footer is found by the joined bytes alone.** -/
theorem Recorded.locate {files : FileSet σ} {contents : List Bytes}
    (recorded : Recorded files contents) :
    (Footer.locate files).result =
      (Footer.accept
        (contents.flatten.drop (contents.flatten.length - Footer.size))).1.mapError .format := by
  obtain ⟨last, last_eq, fits⟩ := recorded.footer_fits
  have last_length : files.lengths.getLast? = some last.length := by
    rw [recorded.lengths_eq, List.getLast?_map, last_eq, Option.map_some]
  have there : contents[files.size - 1]? = some last := by
    rw [recorded.holds.size_eq, ← List.getLast?_eq_getElem?, last_eq]
  obtain ⟨after, still, _, read_eq⟩ :=
    recorded.holds.readAt there (last.length - Footer.size) Footer.size
  obtain ⟨moved, _, _, rewind_eq⟩ := still.rewind there
  have all : (last.drop (last.length - Footer.size)).take Footer.size =
      last.drop (last.length - Footer.size) :=
    List.take_of_length_le (by rw [List.length_drop]; omega)
  have long : (last.drop (last.length - Footer.size)).length = Footer.size := by
    rw [List.length_drop]
    omega
  simp only [Footer.locate, last_length, if_neg (Nat.not_lt_of_le fits), read_eq, rewind_eq, all,
    long, ne_eq, not_true_eq_false, ↓reduceIte, drop_flatten_last last_eq fits]

end

/-- The times of an index do not depend on where its files end. -/
theorem BlockIndex.times_build {lengths others : List Nat} (same : lengths.sum = others.sum)
    (footerSize frameSize fpsX1000 n : Nat) :
    ((build lengths footerSize frameSize fpsX1000).value.get? n).map (·.timestampNs) =
      ((build others footerSize frameSize fpsX1000).value.get? n).map (·.timestampNs) := by
  rw [get?_build, get?_build, payload_eq, payload_eq, same]
  split <;> rfl

namespace Reader

/-- The number of files is all that tells two file headers apart. -/
theorem handle_synthesize {η : Type} [BlockHandler η] (ignores : IgnoresFileCount η) (handler : η)
    (footer : Footer) (files others frames : Nat) (buffer : FrameBuffer) :
    BlockHandler.handle handler ⟨.fileHeader (.synthesize footer files frames), buffer, 0, 0⟩ =
      BlockHandler.handle handler ⟨.fileHeader (.synthesize footer others frames), buffer, 0, 0⟩ :=
  ignores handler ⟨.fileHeader (.synthesize footer others frames), buffer, 0, 0⟩
    (UInt16.ofNat (min files 0xFFFF))

/-- Two handlers that do the same with the first two blocks take them alike. -/
theorem introduce_alike {σ τ η : Type} [BlockHandler η] {r : Reader σ η} {s : Reader τ η}
    (same : BlockHandler.handle r.handler ⟨.fileHeader r.fileHeader, r.buffer, 0, 0⟩ =
      BlockHandler.handle s.handler ⟨.fileHeader s.fileHeader, s.buffer, 0, 0⟩)
    (rawInfo_eq : r.rawInfo = s.rawInfo) (buffer_eq : r.buffer = s.buffer) :
    Alike (fun a b => ∃ after, a = { r with handler := after } ∧ b = { s with handler := after })
      (introduce r).result (introduce s).result := by
  obtain ⟨_, _, _, rawInfo, _, buffer, _, _⟩ := r
  obtain ⟨_, _, fileHeader, _, _, _, handler, _⟩ := s
  dsimp only at same rawInfo_eq buffer_eq
  subst rawInfo_eq buffer_eq
  simp only [introduce, dispatch, same]
  generalize BlockHandler.handle handler ⟨.fileHeader fileHeader, buffer, 0, 0⟩ = first
  cases first.outcome with
  | error e => exact .failed _
  | ok _ =>
    dsimp only
    generalize BlockHandler.handle first.handler ⟨.rawInfo rawInfo, buffer, 0, 0⟩ = second
    cases second.outcome with
    | error e => exact .failed _
    | ok _ => exact .succeeded ⟨second.handler, rfl, rfl⟩

section
variable {σ τ η : Type} [ByteStream σ] [ByteStream τ]

theorem size_index_ofFooter {files : FileSet σ} {contents : List Bytes}
    (recorded : Recorded files contents) (footer : Footer) (handler : η) :
    (ofFooter (Footer.locate files).files footer handler).index.size =
      (contents.flatten.length - Footer.size) / footer.frameBytes := by
  have total : (Footer.locate files).files.lengths.sum = contents.flatten.length := by
    rw [(Footer.locate_accessed files).lengths_eq, recorded.lengths_eq, List.length_flatten]
  rw [← total, ← BlockIndex.payload_eq]
  exact BlockIndex.size_build ..

/-- All checks of the last bytes of a recording of `total` bytes, as the reader makes them. -/
def examine (failLevel : Level) (total : Nat) (data : Bytes) : Except ReadError Footer :=
  match (Footer.accept data).1 with
  | .error e => .error (.format e)
  | .ok footer =>
    (checkFrameCount failLevel footer.frameCount
      ((total - Footer.size) / footer.frameBytes)).map fun _ => footer

theorem Recorded.survey_eq {files : FileSet σ} {contents : List Bytes}
    (recorded : Recorded files contents) (failLevel : Level) :
    survey failLevel files = examine failLevel contents.flatten.length
      (contents.flatten.drop (contents.flatten.length - Footer.size)) := by
  unfold survey examine
  rw [recorded.locate]
  cases (Footer.accept (contents.flatten.drop (contents.flatten.length - Footer.size))).1 with
  | error e => rfl
  | ok footer => simp only [Except.mapError, size_index_ofFooter recorded]

/-- Two readers of what is the same recording, in whatever files. -/
structure SameRecording (r : Reader σ η) (s : Reader τ η) : Prop where
  footer_eq : r.footer = s.footer
  frameSize_eq : r.frameSize = s.frameSize
  blockCount_eq : r.blockCount = s.blockCount
  times_eq : ∀ n, (r.index.get? n).map (·.timestampNs) = (s.index.get? n).map (·.timestampNs)

/-- Readers that were laid out by one footer, and left to one handler. -/
def Twins (files : FileSet σ) (others : FileSet τ) (handler : η) (r : Reader σ η)
    (s : Reader τ η) : Prop :=
  ∃ footer after,
    r = { ofFooter (Footer.locate files).files footer handler with handler := after } ∧
    s = { ofFooter (Footer.locate others).files footer handler with handler := after }

theorem Twins.sameRecording {files : FileSet σ} {others : FileSet τ} {contents pieces : List Bytes}
    {handler : η} {r : Reader σ η} {s : Reader τ η} (twins : Twins files others handler r s)
    (recorded : Recorded files contents) (recorded' : Recorded others pieces)
    (same : contents.flatten = pieces.flatten) : SameRecording r s := by
  obtain ⟨footer, after, rfl, rfl⟩ := twins
  refine ⟨rfl, rfl, ?_, fun n => BlockIndex.times_build ?_ _ _ _ n⟩
  · exact (size_index_ofFooter recorded footer handler).trans
      (same ▸ (size_index_ofFooter recorded' footer handler).symm)
  · rw [(Footer.locate_accessed files).lengths_eq, (Footer.locate_accessed others).lengths_eq,
      recorded.lengths_eq, recorded'.lengths_eq, ← List.length_flatten, ← List.length_flatten, same]

variable [BlockHandler η]

/-- Two recordings of the same bytes are opened alike. -/
theorem openWith_alike {files : FileSet σ} {others : FileSet τ} {contents pieces : List Bytes}
    (recorded : Recorded files contents) (recorded' : Recorded others pieces)
    (same : contents.flatten = pieces.flatten) (ignores : IgnoresFileCount η)
    (failLevel : Level) (handler : η) :
    Alike (Twins files others handler) (openWith failLevel files handler).result
      (openWith failLevel others handler).result := by
  have opening := openWith_eq_introduce failLevel files handler
  have opening' := openWith_eq_introduce failLevel others handler
  rw [Recorded.survey_eq recorded] at opening
  rw [Recorded.survey_eq recorded', ← same] at opening'
  cases examined : examine failLevel contents.flatten.length
      (contents.flatten.drop (contents.flatten.length - Footer.size)) with
  | error e =>
    rw [examined] at opening opening'
    rw [opening.1, opening'.1]
    exact .failed e
  | ok footer =>
    rw [examined] at opening opening'
    rw [opening.1, opening'.1]
    let r := ofFooter (Footer.locate files).files footer handler
    let s := ofFooter (Footer.locate others).files footer handler
    have frames : r.index.size = s.index.size := by
      rw [size_index_ofFooter recorded, size_index_ofFooter recorded', same]
    have first : BlockHandler.handle handler ⟨.fileHeader r.fileHeader, r.buffer, 0, 0⟩ =
        BlockHandler.handle handler ⟨.fileHeader s.fileHeader, s.buffer, 0, 0⟩ := by
      have r_header : r.fileHeader =
        .synthesize footer (Footer.locate files).files.size r.index.size := rfl
      rw [r_header, frames]
      exact handle_synthesize ignores ..
    refine (introduce_alike (r := r) (s := s) first rfl rfl).imp ?_
    rintro _ _ - - ⟨after, r_eq, s_eq⟩
    exact ⟨footer, after, r_eq, s_eq⟩

/-- A block that hands out a frame has the bytes of all files joined in it. -/
theorem given_readBlock {files : FileSet σ} {contents : List Bytes}
    (recorded : Recorded files contents) {failLevel : Level} {handler : η} {opened : Reader σ η}
    (ok : (openWith failLevel files handler).result = .ok opened)
    {operations : List (Operation η)} (ready : (opened.run operations).isReady = true)
    {index : Nat} (indexed : index < opened.blockCount) :
    ∃ (start : BlockDescriptor) (block : Block), opened.index.get? index = some start ∧
      given failLevel files handler (operations ++ [.readBlock index]) =
        given failLevel files handler operations ++ [block] ∧
      block.header = .videoFrame (.ofFrame index start.timestampNs opened.frameSize) ∧
      block.data = (contents.flatten.drop (index * opened.frameSize)).take opened.frameSize := by
  have keeps := run_keeps opened operations
  obtain ⟨blocks, given_eq, shown⟩ := given_append ok operations (.readBlock index)
  obtain ⟨now, there, accessed⟩ := run_files ok operations ready
  have still_indexed : index < (opened.run operations).blockCount := by
    rwa [keeps.blockCount_eq]
  have covers : Covers files.lengths contents := recorded.lengths_eq ▸ covers_self contents
  obtain ⟨file, inner, placed, read, _⟩ :=
    readFrame_covered ((openWith_laid ok).1.keeps keeps) there accessed.lengths_eq
      (accessed.holds recorded.holds) covers still_indexed
  rw [recorded.lengths_eq, keeps.frameSize_eq] at placed
  rw [keeps.frameSize_eq, ← placed.drop_flatten] at read
  cases shown with
  | unread failed => rw [read] at failed; cases failed
  | @read frame block ok_frame shows =>
    obtain ⟨start, _, at_index, header_eq, rfl, _⟩ := shows.header
    rw [keeps.index_eq] at at_index
    rw [keeps.frameSize_eq] at header_eq
    rw [read, Except.ok.injEq] at ok_frame
    exact ⟨start, block, at_index, given_eq, header_eq, shows.data_eq.trans ok_frame.symm⟩

/-- Both handlers are given the same two blocks without frames, but for the
number of files. -/
def SamePreamble (failLevel : Level) (files : FileSet σ) (others : FileSet τ) (handler : η) :
    Prop :=
  ∃ (fileHeader : FileHeader) (buffer : FrameBuffer) (rawInfo : Block) (count count' : UInt16),
    count.toNat = min files.size 65535 ∧ count'.toNat = min others.size 65535 ∧
    given failLevel files handler [] =
      [⟨.fileHeader { fileHeader with fileCount := count }, buffer, 0, 0⟩, rawInfo] ∧
    given failLevel others handler [] =
      [⟨.fileHeader { fileHeader with fileCount := count' }, buffer, 0, 0⟩, rawInfo]

theorem Twins.samePreamble {failLevel : Level} {files : FileSet σ} {others : FileSet τ}
    {handler : η} {r : Reader σ η} {s : Reader τ η} (twins : Twins files others handler r s)
    (frames : r.blockCount = s.blockCount)
    (ok : (openWith failLevel files handler).result = .ok r)
    (ok' : (openWith failLevel others handler).result = .ok s) :
    SamePreamble failLevel files others handler := by
  have fits (n : Nat) : (UInt16.ofNat (min n 65535)).toNat = min n 65535 := by
    rw [UInt16.toNat_ofNat']
    omega
  have first := given_preamble ok
  have second := given_preamble ok'
  obtain ⟨footer, after, rfl, rfl⟩ := twins
  refine ⟨.synthesize footer 0 (ofFooter (Footer.locate files).files footer handler).index.size,
    .blank footer.frameBytes, ⟨.rawInfo (.ofFooter footer), .blank footer.frameBytes, 0, 0⟩,
    .ofNat (min files.size 65535), .ofNat (min others.size 65535), fits _, fits _, ?_, ?_⟩
  · rw [first, ← (Footer.locate_accessed files).size_eq]
    rfl
  · rw [second, ← (Footer.locate_accessed others).size_eq]
    have frames' : (ofFooter (Footer.locate files).files footer handler).index.size =
      (ofFooter (Footer.locate others).files footer handler).index.size := frames
    rw [frames']
    rfl

/-- Both handlers are given the same block when frame `index` is handed out,
whatever was called before. -/
def SameFrame (failLevel : Level) (files : FileSet σ) (others : FileSet τ) (handler : η)
    (operations operations' : List (Operation η)) (index : Nat) : Prop :=
  ∃ block block' : Block,
    given failLevel files handler (operations ++ [.readBlock index]) =
      given failLevel files handler operations ++ [block] ∧
    given failLevel others handler (operations' ++ [.readBlock index]) =
      given failLevel others handler operations' ++ [block'] ∧
    block.header = block'.header ∧ block.data = block'.data

/-- **How a recording is split does not matter.** The same bytes, joined, are
opened or refused alike. What is opened is one recording, and the handler is
given the same blocks, but for the number of files in the first one. -/
theorem split_does_not_matter {streams : List σ} {streams' : List τ} {contents pieces : List Bytes}
    (honest : List.Forall₂ ByteStream.Honest streams contents)
    (honest' : List.Forall₂ ByteStream.Honest streams' pieces)
    (same : contents.flatten = pieces.flatten)
    (fits : ∃ last, contents.getLast? = some last ∧ Footer.size ≤ last.length)
    (fits' : ∃ last, pieces.getLast? = some last ∧ Footer.size ≤ last.length)
    (ignores : IgnoresFileCount η) (failLevel : Level) (handler : η) :
    ∃ files others,
      FileSet.ofStreams streams = .ok files ∧ files.size = streams.length ∧
      FileSet.ofStreams streams' = .ok others ∧ others.size = streams'.length ∧
      Alike (fun r s => SameRecording r s ∧ SamePreamble failLevel files others handler ∧
          ∀ operations operations', (r.run operations).isReady = true →
            (s.run operations').isReady = true → ∀ index < r.blockCount,
              SameFrame failLevel files others handler operations operations' index)
        (openWith failLevel files handler).result (openWith failLevel others handler).result := by
  obtain ⟨files, measured, holds, lengths⟩ := FileSet.ofStreams_honest honest
  obtain ⟨others, measured', holds', lengths'⟩ := FileSet.ofStreams_honest honest'
  have recorded : Recorded files contents := ⟨holds, lengths, fits⟩
  have recorded' : Recorded others pieces := ⟨holds', lengths', fits'⟩
  refine ⟨files, others, measured, holds.size_eq.trans honest.length_eq.symm, measured',
    holds'.size_eq.trans honest'.length_eq.symm, ?_⟩
  refine (openWith_alike recorded recorded' same ignores failLevel handler).imp ?_
  intro r s ok ok' twins
  have recording := twins.sameRecording recorded recorded' same
  refine ⟨recording, twins.samePreamble recording.blockCount_eq ok ok', ?_⟩
  intro operations operations' ready ready' index indexed
  obtain ⟨start, block, there, given_eq, header, data⟩ :=
    given_readBlock recorded ok ready indexed
  obtain ⟨start', block', there', given_eq', header', data'⟩ :=
    given_readBlock recorded' ok' ready' (recording.blockCount_eq ▸ indexed)
  have times := recording.times_eq index
  rw [there, there', Option.map_some, Option.map_some, Option.some.injEq] at times
  refine ⟨block, block', given_eq, given_eq', ?_, ?_⟩
  · rw [header, header', times, recording.frameSize_eq]
  · rw [data, data', same, recording.frameSize_eq]

end

set_option maxRecDepth 20000 in
theorem scattered_runs :
    ∃ files opened, FileSet.ofStreams scattered = .ok files ∧
      (openWith .error files NullHandler.mk).result = .ok opened ∧
      (opened.run someCalls).isReady = true ∧ opened.blockCount = 2 := by
  have evaluated : (FileSet.ofStreams scattered).toOption.map (fun files =>
      (openWith .error files NullHandler.mk).result.toOption.map fun opened =>
        ((opened.run someCalls).isReady, opened.blockCount)) = some (some (true, 2)) := by cbv
  obtain ⟨files, measured, evaluated⟩ := exists_ok_of_map evaluated
  obtain ⟨opened, ok, evaluated⟩ := exists_ok_of_map evaluated
  obtain ⟨ready, blockCount⟩ := Prod.mk.inj evaluated
  exact ⟨files, opened, measured, ok, ready, blockCount⟩

/-- The two frames of `scattered`, in one stream. -/
def together : List MemoryStream := [.ofBytes ([1, 2, 3, 4, 5, 6] ++ Footer.plain 3 2)]

theorem split_does_not_matter_scattered :
    ∃ files others r s,
      FileSet.ofStreams scattered = .ok files ∧ FileSet.ofStreams together = .ok others ∧
      (openWith .error files NullHandler.mk).result = .ok r ∧
      (openWith .error others NullHandler.mk).result = .ok s ∧
      SameRecording r s ∧ SameFrame .error files others NullHandler.mk someCalls [] 1 := by
  obtain ⟨_, r, measured, ok, ready, blockCount⟩ := scattered_runs
  have together_honest : List.Forall₂ ByteStream.Honest together
      [[1, 2, 3, 4, 5, 6] ++ Footer.plain 3 2] :=
    .cons (MemoryStream.Sound.honest ⟨rfl, rfl, by decide⟩ rfl rfl) .nil
  have fits (front : Bytes) : Footer.size ≤ (front ++ Footer.plain 3 2).length := by
    rw [List.length_append, Footer.length_plain]
    exact Nat.le_add_left ..
  obtain ⟨files, others, measured', _, measured_together, _, alike⟩ :=
    split_does_not_matter scattered_honest together_honest (by simp) ⟨_, rfl, fits _⟩
      ⟨_, rfl, fits _⟩ (fun _ _ _ => rfl) .error NullHandler.mk
  rw [measured, Except.ok.injEq] at measured'
  subst measured'
  rw [ok] at alike
  generalize opened : (openWith .error others NullHandler.mk).result = result at alike
  cases alike with
  | @succeeded _ s same =>
    obtain ⟨recording, _, frames⟩ := same
    obtain ⟨_, now, there, _⟩ := openWith_laid opened
    have still_ready : s.isReady = true := Option.isSome_iff_exists.mpr ⟨now, there⟩
    exact ⟨_, others, r, s, measured, measured_together, ok, opened, recording,
      frames someCalls [] ready still_ready 1 (blockCount ▸ Nat.one_lt_two)⟩

end Reader

end RawReel
