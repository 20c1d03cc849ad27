import Mathlib
import RawReel.Proofs.Decoded
import RawReel.Proofs.Splitting

/-!
# Metadata stands as the camera stored it

Main statement: `metadata_reproduces_footer`. Apart from what is the same for
every recording and from two counts, the two headers that a handler is given are
stretches of the footer, byte for byte.
-/

namespace RawReel

theorem Word.encode_ofNat (α : Type) [Word α] {n : Nat} (fits : n < Nat.pow 256 (width α)) :
    encode (ofNat n : α) = LittleEndian.encode (width α) n := by
  rw [encode, toNat_ofNat n fits]

namespace Footer

theorem take_geometry (f : Footer) :
    (f.encode.drop 4).take 4 = Word.encode f.width ++ Word.encode f.height := by
  have split : f.encode = f.magic.bytes ++ ((Word.encode f.width ++ Word.encode f.height) ++
      (Word.encode f.frameSize ++ Word.encode f.frameCount ++ Word.encode f.frameSkip ++
        Word.encode f.fpsX1000 ++ Word.encode f.reserved3 ++ Word.encode f.reserved4 ++
        f.sensor.encode)) := by
    simp only [encode, List.append_assoc]
  rw [split, List.drop_left' f.magic.length_eq]
  exact List.take_left' (by simp [Word.width])

theorem take_rate (f : Footer) : (f.encode.drop 20).take 4 = Word.encode f.fpsX1000 := by
  have split : f.encode = (f.magic.bytes ++ Word.encode f.width ++ Word.encode f.height ++
      Word.encode f.frameSize ++ Word.encode f.frameCount ++ Word.encode f.frameSkip) ++
      (Word.encode f.fpsX1000 ++
        (Word.encode f.reserved3 ++ Word.encode f.reserved4 ++ f.sensor.encode)) := by
    simp only [encode, List.append_assoc]
  rw [split, List.drop_left' (by simp [f.magic.length_eq, Word.width])]
  exact List.take_left' (by simp [Word.width])

theorem take_sensor (f : Footer) : (f.encode.drop 32).take 160 = f.sensor.encode := by
  rw [encode, List.drop_left' (by simp [f.magic.length_eq, Word.width])]
  exact List.take_of_length_le (Nat.le_of_eq (SensorInfo.length_encode _))

/-- A rate that is not negative is stored as the number that it is. -/
theorem encode_rate {f : Footer} (positive : ¬ f.fpsX1000 ≤ 0) :
    Word.encode (UInt32.ofNat f.rate) = Word.encode f.fpsX1000 := by
  have same : f.fpsX1000.toUInt32.toNat = f.rate :=
    Int32.toNat_toBitVec_of_le (Int32.le_of_lt (Int32.not_le.mp positive))
  rw [← same, UInt32.ofNat_toNat]
  rfl

theorem accept_rate {data : Bytes} {footer : Footer} (accepted : (accept data).1 = .ok footer) :
    ¬ footer.fpsX1000 ≤ 0 := by
  unfold accept at accepted
  split at accepted
  · cases accepted
  · next decoded _ =>
    split at accepted
    · cases accepted
    · next valid =>
      cases accepted
      intro le
      simp only [validate, if_pos le] at valid
      split at valid <;> cases valid

end Footer

/-- The file header of a recording in `files` files, of which `frames` frames are
indexed, made from the bytes of its footer. -/
def fileHeaderRecord (stored : Bytes) (files frames : Nat) : Bytes :=
  (FourCC.ofChars 'M' 'L' 'V' 'I').bytes ++ LittleEndian.encode 4 52 ++
  ((FourCC.ofChars 'v' '2' '.' '0').bytes ++ List.replicate 4 0) ++ List.replicate 8 0 ++
  LittleEndian.encode 2 0 ++ LittleEndian.encode 2 (min files 65535) ++
  LittleEndian.encode 4 0 ++ LittleEndian.encode 2 1 ++ LittleEndian.encode 2 0 ++
  LittleEndian.encode 4 (min frames (2 ^ 32 - 1)) ++ LittleEndian.encode 4 0 ++
  (stored.drop 20).take 4 ++ LittleEndian.encode 4 1000

/-- The raw info header, made from the bytes of a footer. -/
def rawInfoRecord (stored : Bytes) : Bytes :=
  (FourCC.ofChars 'R' 'A' 'W' 'I').bytes ++ LittleEndian.encode 4 180 ++ List.replicate 8 0 ++
  (stored.drop 4).take 4 ++ (stored.drop 32).take 160

theorem RawInfoHeader.encode_ofFooter (f : Footer) :
    (ofFooter f).encode = rawInfoRecord f.encode := by
  have blockSize : Word.encode (UInt32.ofNat size) = LittleEndian.encode 4 180 :=
    Word.encode_ofNat UInt32 (by decide)
  have timestamp : Word.encode (0 : UInt64) = List.replicate 8 0 := by decide
  have width : Word.encode f.width.toUInt16 = Word.encode f.width := rfl
  have height : Word.encode f.height.toUInt16 = Word.encode f.height := rfl
  rw [rawInfoRecord, f.take_geometry, f.take_sensor, ← List.append_assoc, ← blockSize, ← timestamp,
    ← width, ← height]
  rfl

theorem FileHeader.encode_synthesize {f : Footer} (positive : ¬ f.fpsX1000 ≤ 0)
    (files frames : Nat) :
    (synthesize f files frames).encode = fileHeaderRecord f.encode files frames := by
  have blockSize : Word.encode (UInt32.ofNat size) = LittleEndian.encode 4 52 :=
    Word.encode_ofNat UInt32 (by decide)
  have version : version2.bytes = (FourCC.ofChars 'v' '2' '.' '0').bytes ++ List.replicate 4 0 := by
    decide
  have guid : Word.encode (0 : UInt64) = List.replicate 8 0 := by decide
  have fileCount : Word.encode (UInt16.ofNat (min files 65535)) =
      LittleEndian.encode 2 (min files 65535) :=
    Word.encode_ofNat UInt16 (Nat.lt_succ_of_le (Nat.min_le_right files 65535))
  have videoFrames : Word.encode (UInt32.ofNat (min frames (2 ^ 32 - 1))) =
      LittleEndian.encode 4 (min frames (2 ^ 32 - 1)) :=
    Word.encode_ofNat UInt32 (Nat.lt_succ_of_le (Nat.min_le_right frames (2 ^ 32 - 1)))
  rw [fileHeaderRecord, f.take_rate, ← Footer.encode_rate positive, ← blockSize, ← version, ← guid,
    ← fileCount, ← videoFrames]
  rfl

namespace Reader

section
variable {σ η : Type} [ByteStream σ] [BlockHandler η]

/-- **Metadata stands as the camera stored it.** The two headers that a handler
is given while a recording is opened are, whatever the footer holds, made of its
bytes: the resolution and the sensor descriptor are copied, and so is the rate. -/
theorem metadata_reproduces_footer {streams : List σ} {contents : List Bytes} {files : FileSet σ}
    {failLevel : Level} {handler : η} {opened : Reader σ η}
    (honest : List.Forall₂ ByteStream.Honest streams contents)
    (measured : FileSet.ofStreams streams = .ok files)
    (ok : (openWith failLevel files handler).result = .ok opened) :
    ∃ last, contents.getLast? = some last ∧ Footer.size ≤ last.length ∧
      ∃ fileHeader rawInfo : Block,
        given failLevel files handler [] = [fileHeader, rawInfo] ∧
        HeaderBlock (.fileHeader opened.fileHeader) fileHeader ∧
        HeaderBlock (.rawInfo opened.rawInfo) rawInfo ∧
        let stored := last.drop (last.length - Footer.size)
        opened.fileHeader.encode = fileHeaderRecord stored streams.length opened.blockCount ∧
        opened.rawInfo.encode = rawInfoRecord stored := by
  obtain ⟨measuredFiles, measured_eq, holds, lengths⟩ := FileSet.ofStreams_honest honest
  rw [measured, Except.ok.injEq] at measured_eq
  subst measured_eq
  obtain ⟨footer, warning, found, _, introduced⟩ := openWith_eq_ok_iff.mp ok
  obtain ⟨decoded, last, last_eq, fits⟩ := Footer.located_at_end holds lengths found
  have accepted := Recorded.locate ⟨holds, lengths, last, last_eq, fits⟩
  rw [found, drop_flatten_last last_eq fits] at accepted
  rw [drop_flatten_last last_eq fits] at decoded
  have positive : ¬ footer.fpsX1000 ≤ 0 := by
    cases checked : (Footer.accept (last.drop (last.length - Footer.size))).1 with
    | error e => rw [checked] at accepted; cases accepted
    | ok other =>
      rw [checked] at accepted
      cases accepted
      exact Footer.accept_rate checked
  have stored : footer.encode = last.drop (last.length - Footer.size) := by
    rw [Footer.encode_ofBytes decoded]
    exact List.take_of_length_le (by rw [List.length_drop]; omega)
  have count : (Footer.locate files).files.size = streams.length := by
    rw [(Footer.locate_accessed files).size_eq, holds.size_eq, honest.length_eq]
  obtain ⟨after, opened_eq⟩ := introduce_ok introduced
  refine ⟨last, last_eq, fits, _, _, given_preamble ok, headerBlock_blank .., headerBlock_blank ..,
    ?_, ?_⟩
  · rw [← stored, ← count, ← FileHeader.encode_synthesize positive, opened_eq]
    rfl
  · rw [← stored, ← RawInfoHeader.encode_ofFooter, opened_eq]
    rfl

end

/-- A footer with a width of -1 and a height of -32768, and with bytes in the
sensor descriptor that mean nothing. -/
def strangeFooter : Bytes :=
  [0x52, 0x41, 0x57, 0x4D, 0xFF, 0xFF, 0x00, 0x80, 3, 0, 0, 0, 2, 0, 0, 0,
    7, 7, 7, 7, 0xA8, 0x5D, 0, 0, 8, 8, 8, 8, 9, 9, 9, 9] ++
  (List.range 160).map fun n => UInt8.ofNat (255 - n)

def strange : List MemoryStream :=
  [.ofBytes [1, 2, 3, 4], { MemoryStream.ofBytes ([5, 6] ++ strangeFooter) with portion := some 7 }]

theorem strange_honest :
    List.Forall₂ ByteStream.Honest strange [[1, 2, 3, 4], [5, 6] ++ strangeFooter] := by
  refine .cons ?_ (.cons ?_ .nil) <;>
    exact MemoryStream.Sound.honest ⟨rfl, rfl, by decide⟩ rfl rfl

set_option maxRecDepth 20000 in
theorem strange_opens :
    ∃ files opened, FileSet.ofStreams strange = .ok files ∧
      (openWith .error files NullHandler.mk).result = .ok opened ∧ opened.blockCount = 2 := by
  have evaluated : (FileSet.ofStreams strange).toOption.map (fun files =>
      (openWith .error files NullHandler.mk).result.toOption.map fun opened =>
        opened.blockCount) = some (some 2) := by cbv
  obtain ⟨files, measured, evaluated⟩ := exists_ok_of_map evaluated
  obtain ⟨opened, ok, blockCount⟩ := exists_ok_of_map evaluated
  exact ⟨files, opened, measured, ok, blockCount⟩

theorem metadata_reproduces_strange_footer :
    ∃ files opened, FileSet.ofStreams strange = .ok files ∧
      (openWith .error files NullHandler.mk).result = .ok opened ∧
      opened.rawInfo.encode =
        [0x52, 0x41, 0x57, 0x49, 180, 0, 0, 0, 0, 0, 0, 0, 0, 0, 0, 0, 0xFF, 0xFF, 0x00, 0x80] ++
        (List.range 160).map (fun n => UInt8.ofNat (255 - n)) ∧
      opened.fileHeader.encode =
        [0x4D, 0x4C, 0x56, 0x49, 52, 0, 0, 0, 0x76, 0x32, 0x2E, 0x30, 0, 0, 0, 0,
          0, 0, 0, 0, 0, 0, 0, 0, 0, 0, 2, 0, 0, 0, 0, 0, 1, 0, 0, 0, 2, 0, 0, 0, 0, 0, 0, 0,
          0xA8, 0x5D, 0, 0, 0xE8, 0x03, 0, 0] := by
  obtain ⟨files, opened, measured, ok, blockCount⟩ := strange_opens
  obtain ⟨last, last_eq, _, _, _, _, _, _, fileHeader, rawInfo⟩ :=
    metadata_reproduces_footer strange_honest measured ok
  cases last_eq
  rw [blockCount] at fileHeader
  refine ⟨files, opened, measured, ok, ?_, ?_⟩
  · rw [rawInfo]
    cbv
  · rw [fileHeader]
    cbv

end Reader

end RawReel
