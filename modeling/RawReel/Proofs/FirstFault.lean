import Mathlib
import RawReel.Handler.Recorder
import RawReel.Proofs.Metadata

/-!
# Opening blames the first fault

* `firstFault`: what the bytes of the files say is wrong with a recording;
* `survey_eq_verdict`: files that are as they were measured are refused for their
  first fault, and for nothing else;
* `Introduced`: what comes of giving the first two blocks to the handler;
* `opening_blames_first_fault`: what opening gives, for any files and handler.
-/

namespace RawReel

/-- The signed number in the four bytes at `offset`. -/
def Bytes.int32At (data : Bytes) (offset : Nat) : Int32 :=
  Word.decode ((data.drop offset).take 4)

theorem Bytes.int32At_append {front : Bytes} {offset : Nat} (after_front : front.length = offset)
    (x : Int32) (rest : Bytes) : int32At (front ++ (Word.encode x ++ rest)) offset = x := by
  have four : (Word.encode x).length = 4 := Word.length_encode x
  rw [int32At, List.drop_left' after_front, List.take_left' four, Word.decode_encode]

/-- The first thing that is wrong with what a recording of `total` bytes says of its frames. -/
def geometryFault (failLevel : Level) (total : Nat) (frameSize declared rate : Int32) :
    Option FormatError :=
  let indexed := (total - 192) / frameSize.toInt.toNat
  if frameSize ≤ 0 then some (.invalidFrameSize frameSize)
  else if rate ≤ 0 then some (.invalidFrameRate rate)
  else if (indexed : Int) < declared.toInt ∧ .warn ≤ failLevel then
    some (.frameCountMismatch declared indexed)
  else none

/-- The first thing that is wrong with the last bytes of a recording of `total` bytes. -/
def footerFault (failLevel : Level) (total : Nat) (stored : FixedBytes 192) : Option FormatError :=
  let magic : FourCC := ⟨stored.bytes.take 4, by rw [List.length_take, stored.length_eq]; rfl⟩
  if magic.bytes ≠ [0x52, 0x41, 0x57, 0x4D] then some (.invalidMagic magic)
  else geometryFault failLevel total (stored.bytes.int32At 8) (stored.bytes.int32At 12)
    (stored.bytes.int32At 20)

/-- The first thing that is wrong with a recording in files that hold `contents`. -/
def firstFault (failLevel : Level) (contents : List Bytes) : Option FormatError :=
  match contents.getLast? with
  | none => some .emptyFileSet
  | some last =>
    if long : 192 ≤ last.length then
      footerFault failLevel contents.flatten.length
        ⟨last.drop (last.length - 192), by rw [List.length_drop]; omega⟩
    else some (.truncated last.length 192)

namespace Footer

theorem int32At_frameSize (f : Footer) : f.encode.int32At 8 = f.frameSize := by
  have split : f.encode = (f.magic.bytes ++ Word.encode f.width ++ Word.encode f.height) ++
      (Word.encode f.frameSize ++ (Word.encode f.frameCount ++ Word.encode f.frameSkip ++
        Word.encode f.fpsX1000 ++ Word.encode f.reserved3 ++ Word.encode f.reserved4 ++
        f.sensor.encode)) := by
    simp only [encode, List.append_assoc]
  rw [split, Bytes.int32At_append (by simp [f.magic.length_eq, Word.width])]

theorem int32At_frameCount (f : Footer) : f.encode.int32At 12 = f.frameCount := by
  have split : f.encode = (f.magic.bytes ++ Word.encode f.width ++ Word.encode f.height ++
      Word.encode f.frameSize) ++ (Word.encode f.frameCount ++ (Word.encode f.frameSkip ++
        Word.encode f.fpsX1000 ++ Word.encode f.reserved3 ++ Word.encode f.reserved4 ++
        f.sensor.encode)) := by
    simp only [encode, List.append_assoc]
  rw [split, Bytes.int32At_append (by simp [f.magic.length_eq, Word.width])]

theorem int32At_rate (f : Footer) : f.encode.int32At 20 = f.fpsX1000 := by
  rw [Bytes.int32At, take_rate, Word.decode_encode]

end Footer

namespace Reader

/-- What a recording is refused for, if it has a fault. -/
def verdict : Option FormatError → Except ReadError Unit
  | some fault => .error (.format fault)
  | none => .ok ()

theorem checkFrameCount_eq_verdict (failLevel : Level) (declared : Int32) (found : Nat) :
    (checkFrameCount failLevel declared found).map (fun _ => ()) =
      verdict (if (found : Int) < declared.toInt ∧ .warn ≤ failLevel then
        some (.frameCountMismatch declared found) else none) := by
  unfold checkFrameCount
  by_cases fewer : (found : Int) < declared.toInt
  · rw [if_pos fewer]
    by_cases urgent : Level.warn ≤ failLevel
    · rw [if_pos urgent, if_pos ⟨fewer, urgent⟩]
      rfl
    · rw [if_neg urgent, if_neg fun both => urgent both.2]
      rfl
  · have sound : ¬ ((found : Int) < declared.toInt ∧ .warn ≤ failLevel) := fun both => fewer both.1
    rw [if_neg fewer, if_neg sound]
    split <;> rfl

theorem examine_of_ofBytes {data : Bytes} {footer : Footer}
    (decoded : Footer.ofBytes data = .ok footer) (failLevel : Level) (total : Nat) :
    (examine failLevel total data).map (fun _ => ()) =
      verdict (geometryFault failLevel total footer.frameSize footer.frameCount
        footer.fpsX1000) := by
  unfold examine Footer.accept geometryFault
  rw [decoded]
  by_cases size_le : footer.frameSize ≤ 0
  · have refused : footer.validate = .error (.invalidFrameSize footer.frameSize) := if_pos size_le
    simp only [refused, if_pos size_le]
    rfl
  · by_cases rate_le : footer.fpsX1000 ≤ 0
    · have refused : footer.validate = .error (.invalidFrameRate footer.fpsX1000) := by
        rw [Footer.validate, if_neg size_le, if_pos rate_le]
      simp only [refused, if_neg size_le, if_pos rate_le]
      rfl
    · have valid : footer.validate = .ok () := by
        rw [Footer.validate, if_neg size_le, if_neg rate_le]
      simp only [valid, if_neg size_le, if_neg rate_le, ← checkFrameCount_eq_verdict,
        Footer.frameBytes, Footer.size, SensorInfo.size, Nat.reduceAdd]
      cases checkFrameCount failLevel footer.frameCount
        ((total - 192) / footer.frameSize.toInt.toNat) <;> rfl

theorem examine_eq_verdict (failLevel : Level) (total : Nat) (stored : FixedBytes 192) :
    (examine failLevel total stored.bytes).map (fun _ => ()) =
      verdict (footerFault failLevel total stored) := by
  obtain ⟨⟨_, four⟩, rfl, decoded⟩ := Footer.ofBytes_whole (Nat.le_of_eq stored.length_eq.symm)
  by_cases tagged : ⟨stored.bytes.take 4, four⟩ = Footer.code
  · rw [if_pos tagged] at decoded
    obtain ⟨footer, decoded⟩ := decoded
    have magic_eq : stored.bytes.take 4 = [0x52, 0x41, 0x57, 0x4D] :=
      congrArg FixedBytes.bytes tagged
    have encoded : footer.encode = stored.bytes := by
      rw [Footer.encode_ofBytes decoded]
      exact List.take_of_length_le (Nat.le_of_eq stored.length_eq)
    rw [examine_of_ofBytes decoded, footerFault, if_neg (not_not.mpr magic_eq), ← encoded,
      footer.int32At_frameSize, footer.int32At_frameCount, footer.int32At_rate]
  · rw [if_neg tagged] at decoded
    have magic_ne : stored.bytes.take 4 ≠ [0x52, 0x41, 0x57, 0x4D] :=
      fun same => tagged (FixedBytes.ext same)
    rw [examine, Footer.accept, decoded, footerFault, if_pos magic_ne]
    rfl

section
variable {σ η : Type} [BlockHandler η]

/-- What an opening gives that ends with the first two blocks, the handler after
it, and the blocks that it was given: the first one it rejects ends the opening. -/
inductive Introduced (handler : η) (fileHeader rawInfo : Block) :
    Except ReadError (Reader σ η) → η → List Block → Prop
  | firstRejected {first : Handled η} {e : Failure}
      (first_eq : BlockHandler.handle handler fileHeader = first)
      (rejected : first.outcome = .error e) :
      Introduced handler fileHeader rawInfo (.error (.handler e)) first.handler [fileHeader]
  | secondRejected {first second : Handled η} {e : Failure}
      (first_eq : BlockHandler.handle handler fileHeader = first)
      (first_ok : first.outcome = .ok ())
      (second_eq : BlockHandler.handle first.handler rawInfo = second)
      (rejected : second.outcome = .error e) :
      Introduced handler fileHeader rawInfo (.error (.handler e)) second.handler
        [fileHeader, rawInfo]
  | accepted {first second : Handled η} {opened : Reader σ η}
      (first_eq : BlockHandler.handle handler fileHeader = first)
      (first_ok : first.outcome = .ok ())
      (second_eq : BlockHandler.handle first.handler rawInfo = second)
      (second_ok : second.outcome = .ok ())
      (handler_eq : opened.handler = second.handler) :
      Introduced handler fileHeader rawInfo (.ok opened) second.handler [fileHeader, rawInfo]

/-- A watched handler sees just the blocks of the case that it decides. -/
theorem introduce_seen (r : Reader σ (Watched η)) :
    ∃ blocks, (introduce r).handler.seen = r.handler.seen ++ blocks ∧
      Introduced r.handler.inner ⟨.fileHeader r.fileHeader, r.buffer, 0, 0⟩
        ⟨.rawInfo r.rawInfo, r.buffer, 0, 0⟩ (introduce r.unwatch).result
        (introduce r.unwatch).handler blocks := by
  generalize first_eq : BlockHandler.handle r.handler.inner
    ⟨.fileHeader r.fileHeader, r.buffer, 0, 0⟩ = first
  generalize second_eq : BlockHandler.handle first.handler
    ⟨.rawInfo r.rawInfo, r.buffer, 0, 0⟩ = second
  cases first_outcome : first.outcome with
  | error e =>
    refine ⟨[⟨.fileHeader r.fileHeader, r.buffer, 0, 0⟩], ?_, ?_⟩
    · simp only [introduce, dispatch_watched]
      simp only [dispatch, first_eq, first_outcome]
    · simp only [introduce, unwatch, dispatch, first_eq, first_outcome]
      exact .firstRejected first_eq first_outcome
  | ok _ =>
    refine ⟨[⟨.fileHeader r.fileHeader, r.buffer, 0, 0⟩, ⟨.rawInfo r.rawInfo, r.buffer, 0, 0⟩],
      ?_, ?_⟩
    · simp only [introduce, dispatch_watched]
      simp only [dispatch, first_eq, first_outcome, second_eq, List.append_assoc]
      rfl
    · cases second_outcome : second.outcome with
      | error e =>
        simp only [introduce, unwatch, dispatch, first_eq, first_outcome, second_eq, second_outcome]
        exact .secondRejected first_eq first_outcome second_eq second_outcome
      | ok _ =>
        simp only [introduce, unwatch, dispatch, first_eq, first_outcome, second_eq, second_outcome]
        exact .accepted first_eq first_outcome second_eq second_outcome rfl

end

section
variable {σ η : Type} [ByteStream σ]

/-- **A recording is refused for its first fault**, and for nothing else. -/
theorem survey_eq_verdict {files : FileSet σ} {contents : List Bytes} (holds : files.Holds contents)
    (lengths_eq : files.lengths = contents.map List.length) (failLevel : Level) :
    (survey failLevel files).map (fun _ => ()) = verdict (firstFault failLevel contents) := by
  have last_length : files.lengths.getLast? = contents.getLast?.map List.length := by
    rw [lengths_eq, List.getLast?_map]
  unfold firstFault
  cases last_eq : contents.getLast? with
  | none =>
    rw [last_eq] at last_length
    simp only [survey, Footer.locate, last_length]
    rfl
  | some last =>
    rw [last_eq] at last_length
    have size_eq : Footer.size = 192 := rfl
    by_cases long : 192 ≤ last.length
    · have recorded : Recorded files contents := ⟨holds, lengths_eq, last, last_eq, long⟩
      have stored_eq := drop_flatten_last last_eq long
      rw [Recorded.survey_eq recorded, size_eq, stored_eq]
      simp only [dif_pos long]
      rw [← examine_eq_verdict]
    · have short : last.length < Footer.size := Nat.lt_of_not_le long
      have refused : (Footer.locate files).result =
          .error (.format (.truncated last.length Footer.size)) := by
        simp only [Footer.locate, last_length, Option.map_some, if_pos short]
        rfl
      simp only [survey, refused, dif_neg long]
      rfl

variable [BlockHandler η]

/-- The blocks that were seen by the time a recording was opened, or refused. -/
theorem given_opening (failLevel : Level) (files : FileSet σ) (handler : η) :
    given failLevel files handler [] =
      (openWith failLevel files (Watched.mk handler [])).handler.seen := by
  unfold given
  cases result : (openWith failLevel files (Watched.mk handler [])).result with
  | error e => simp only [result]
  | ok opened =>
    rw [openWith_handler result]
    simp only [result]
    rfl

/-- **Opening blames the first fault.** Whatever files a recording stands in, it
is refused just if its bytes show a fault, for the first one in the order of
`firstFault`, and the handler is not called then. Otherwise the handler decides,
which is given the file header and, if it takes that one, the raw info block. -/
theorem opening_blames_first_fault {streams : List σ} {contents : List Bytes}
    (honest : List.Forall₂ ByteStream.Honest streams contents) (failLevel : Level) (handler : η) :
    ∃ files, FileSet.ofStreams streams = .ok files ∧
      match firstFault failLevel contents with
      | some fault =>
        (openWith failLevel files handler).result = .error (.format fault) ∧
        (openWith failLevel files handler).handler = handler ∧
        given failLevel files handler [] = []
      | none => ∃ fileHeader rawInfo : Block,
        fileHeader.tag = .fileHeader ∧ rawInfo.tag = .rawInfo ∧
        Introduced handler fileHeader rawInfo (openWith failLevel files handler).result
          (openWith failLevel files handler).handler (given failLevel files handler []) := by
  obtain ⟨files, measured, holds, lengths_eq⟩ := FileSet.ofStreams_honest honest
  refine ⟨files, measured, ?_⟩
  have verdict_eq := survey_eq_verdict holds lengths_eq failLevel
  have opening := openWith_eq_introduce failLevel files handler
  have watched := openWith_eq_introduce failLevel files (Watched.mk handler [])
  rw [given_opening]
  cases surveyed : survey failLevel files with
  | error e =>
    rw [surveyed] at verdict_eq opening watched
    cases fault_eq : firstFault failLevel contents with
    | none =>
      rw [fault_eq] at verdict_eq
      cases verdict_eq
    | some fault =>
      rw [fault_eq] at verdict_eq
      cases verdict_eq
      exact ⟨opening.1, opening.2, congrArg Watched.seen watched.2⟩
  | ok footer =>
    rw [surveyed] at verdict_eq opening watched
    cases fault_eq : firstFault failLevel contents with
    | some fault =>
      rw [fault_eq] at verdict_eq
      cases verdict_eq
    | none =>
      let start := ofFooter (Footer.locate files).files footer (Watched.mk handler [])
      obtain ⟨blocks, seen, introduced⟩ := introduce_seen start
      refine ⟨⟨.fileHeader start.fileHeader, start.buffer, 0, 0⟩,
        ⟨.rawInfo start.rawInfo, start.buffer, 0, 0⟩, rfl, rfl, ?_⟩
      rw [opening.1, opening.2, watched.2, seen]
      exact introduced

end

/-- Two frames of three bytes, behind which the footer claims a third one. -/
def overstated : List Bytes := [[0, 1, 2, 3], [4, 5] ++ Footer.plain 3 3]

theorem overstated_honest :
    List.Forall₂ ByteStream.Honest (overstated.map MemoryStream.ofBytes) overstated := by
  refine .cons ?_ (.cons ?_ .nil) <;>
    exact MemoryStream.Sound.honest ⟨rfl, rfl, by decide⟩ rfl rfl

set_option maxRecDepth 20000 in
/-- The missing frame is blamed if warnings are errors; otherwise it is left to
the handler whether the recording is opened. -/
theorem opening_blames_first_fault_overstated :
    ∃ files, FileSet.ofStreams (overstated.map MemoryStream.ofBytes) = .ok files ∧
      (openWith .warn files NullHandler.mk).result =
        .error (.format (.frameCountMismatch 3 2)) ∧
      given .warn files NullHandler.mk [] = [] ∧
      ∃ fileHeader rawInfo : Block, fileHeader.tag = .fileHeader ∧ rawInfo.tag = .rawInfo ∧
        Introduced NullHandler.mk fileHeader rawInfo (openWith .error files NullHandler.mk).result
          (openWith .error files NullHandler.mk).handler
          (given .error files NullHandler.mk []) := by
  have refused : firstFault .warn overstated = some (.frameCountMismatch 3 2) := by cbv
  have faultless : firstFault .error overstated = none := by cbv
  obtain ⟨files, measured, strict⟩ :=
    opening_blames_first_fault overstated_honest .warn NullHandler.mk
  obtain ⟨files', measured', lenient⟩ :=
    opening_blames_first_fault overstated_honest .error NullHandler.mk
  obtain rfl : files' = files := Except.ok.inj (measured'.symm.trans measured)
  rw [refused] at strict
  rw [faultless] at lenient
  exact ⟨files', measured, strict.1, strict.2.2, lenient⟩

end Reader

end RawReel
