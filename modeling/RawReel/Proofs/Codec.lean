import RawReel.Block

/-!
# Packed records are read back

* `Cursor.Reads`: a reader takes certain bytes, and gives what they stand for;
* `Reads.bind`: readers one after the other take their bytes one after the other;
* `BlockHeader.ofBytes_encode`: a header that stands in front of any bytes is
  read back as it was.
-/

namespace RawReel

namespace Cursor

/-- In front of whatever follows, `read` takes just `bytes`, and gives `x`. -/
def Reads {α : Type} (read : Read α) (bytes : Bytes) (x : α) : Prop :=
  ∀ rest offset, read ⟨bytes ++ rest, offset⟩ = .ok x ⟨rest, offset + bytes.length⟩

theorem Reads.bind {α β : Type} {read : Read α} {next : α → Read β} {first later : Bytes} {x : α}
    {y : β} (reads : Reads read first x) (reads_next : Reads (next x) later y) :
    Reads (read >>= next) (first ++ later) y := by
  intro rest offset
  have after := reads (later ++ rest) offset
  have done := reads_next rest (offset + first.length)
  rw [List.append_assoc, List.length_append, ← Nat.add_assoc, ← done]
  simp only [Bind.bind, EStateM.bind, after]

theorem Reads.last {α β : Type} {read : Read α} {bytes : Bytes} {x : α} (reads : Reads read bytes x)
    (f : α → β) : Reads (read >>= fun x => pure (f x)) bytes (f x) := by
  intro rest offset
  simp only [Bind.bind, EStateM.bind, reads rest offset]
  rfl

theorem reads_word {α : Type} [Word α] (x : α) : Reads (word α) (Word.encode x) x := by
  intro rest offset
  have whole : Word.width α = (Word.encode x).length := (Word.length_encode x).symm
  rw [word, whole, if_pos (by simp only [List.length_append]; omega), List.take_left,
    List.drop_left, Word.decode_encode]

theorem reads_fixed {n : Nat} (x : FixedBytes n) : Reads (fixed n) x.bytes x := by
  obtain ⟨bytes, rfl⟩ := x
  intro rest offset
  simp only [fixed, List.length_append, Nat.le_add_right, ↓reduceDIte, List.take_left,
    List.drop_left]

end Cursor

open Cursor

theorem PreviewCrop.reads (c : PreviewCrop) : Reads read c.encode c := by
  simp only [encode, List.append_assoc]
  exact (reads_word _).bind <| (reads_word _).bind <| (reads_word _).bind <| (reads_word _).last _

theorem ActiveArea.reads (a : ActiveArea) : Reads read a.encode a := by
  simp only [encode, List.append_assoc]
  exact (reads_word _).bind <| (reads_word _).bind <| (reads_word _).bind <| (reads_word _).last _

theorem Ratio.reads (q : Ratio) : Reads read q.encode q :=
  (reads_word _).bind <| (reads_word _).last _

theorem ColorRow.reads (r : ColorRow) : Reads read r.encode r := by
  simp only [encode, List.append_assoc]
  exact (Ratio.reads _).bind <| (Ratio.reads _).bind <| (Ratio.reads _).last _

theorem ColorMatrix.reads (m : ColorMatrix) : Reads read m.encode m := by
  simp only [encode, List.append_assoc]
  exact (ColorRow.reads _).bind <| (ColorRow.reads _).bind <| (ColorRow.reads _).last _

theorem SensorInfo.reads (s : SensorInfo) : Reads read s.encode s := by
  simp only [encode, List.append_assoc]
  exact (reads_word _).bind <| (reads_word _).bind <| (reads_word _).bind <| (reads_word _).bind <|
    (reads_word _).bind <| (reads_word _).bind <| (reads_word _).bind <| (reads_word _).bind <|
    (reads_word _).bind <| (PreviewCrop.reads _).bind <| (ActiveArea.reads _).bind <|
    (Ratio.reads _).bind <| (reads_word _).bind <| (reads_word _).bind <|
    (ColorMatrix.reads _).bind <| (reads_word _).last _

theorem SensorInfo.ofBytes_encode (s : SensorInfo) (rest : Bytes) :
    ofBytes (s.encode ++ rest) = .ok s := by
  have taken := s.reads rest 0
  rw [ofBytes, Record.decode, Record.fields, Cursor.ofBytes, taken]

/-- A record behind its code is read back, whatever follows it. -/
theorem Record.decodeTagged_append {α : Type} {read : Read α} {bytes : Bytes} {x : α}
    (reads : Reads read bytes x) (code : FourCC) (refused : FourCC → FormatError) (rest : Bytes) :
    decodeTagged code refused read (code.bytes ++ (bytes ++ rest)) = .ok x := by
  have first := reads_fixed code (bytes ++ rest) 0
  have found : fixed 4 (.ofBytes (code.bytes ++ (bytes ++ rest))) =
      .ok code ⟨bytes ++ rest, 0 + code.bytes.length⟩ := first
  simp only [decodeTagged, found, ↓reduceIte, fields, reads rest]

theorem FileHeader.ofBytes_encode (h : FileHeader) (rest : Bytes) :
    ofBytes (h.encode ++ rest) = .ok h := by
  have reads : Reads readFields _ h :=
    (reads_word h.blockSize).bind <| (reads_fixed h.version).bind <| (reads_word h.guid).bind <|
    (reads_word h.fileNumber).bind <| (reads_word h.fileCount).bind <| (reads_word h.flags).bind <|
    (reads_word h.videoClass).bind <| (reads_word h.audioClass).bind <|
    (reads_word h.videoFrames).bind <| (reads_word h.audioFrames).bind <|
    (reads_word h.fpsNom).bind <| (reads_word h.fpsDenom).last _
  have decoded := Record.decodeTagged_append reads BlockTag.fileHeader.code
    (.invalidBlockType .fileHeader) rest
  simpa only [ofBytes, encode, List.append_assoc] using decoded

theorem RawInfoHeader.ofBytes_encode (h : RawInfoHeader) (rest : Bytes) :
    ofBytes (h.encode ++ rest) = .ok h := by
  have reads : Reads readFields _ h :=
    (reads_word h.blockSize).bind <| (reads_word h.timestamp).bind <| (reads_word h.width).bind <|
    (reads_word h.height).bind <| (SensorInfo.reads h.sensor).last _
  have decoded := Record.decodeTagged_append reads BlockTag.rawInfo.code
    (.invalidBlockType .rawInfo) rest
  simpa only [ofBytes, encode, List.append_assoc] using decoded

theorem VideoFrameHeader.ofBytes_encode (h : VideoFrameHeader) (rest : Bytes) :
    ofBytes (h.encode ++ rest) = .ok h := by
  have reads : Reads readFields _ h :=
    (reads_word h.blockSize).bind <| (reads_word h.timestamp).bind <|
    (reads_word h.frameNumber).bind <| (reads_word h.cropX).bind <| (reads_word h.cropY).bind <|
    (reads_word h.panX).bind <| (reads_word h.panY).bind <| (reads_word h.frameSpace).last _
  have decoded := Record.decodeTagged_append reads BlockTag.videoFrame.code
    (.invalidBlockType .videoFrame) rest
  simpa only [ofBytes, encode, List.append_assoc] using decoded

/-- A footer is read back if its magic is the one that a footer starts with. -/
theorem Footer.ofBytes_encode {f : Footer} (tagged : f.magic = code) (rest : Bytes) :
    ofBytes (f.encode ++ rest) = .ok f := by
  have reads : Reads readFields _ { f with magic := code } :=
    (reads_word f.width).bind <| (reads_word f.height).bind <| (reads_word f.frameSize).bind <|
    (reads_word f.frameCount).bind <| (reads_word f.frameSkip).bind <|
    (reads_word f.fpsX1000).bind <| (reads_word f.reserved3).bind <|
    (reads_word f.reserved4).bind <| (SensorInfo.reads f.sensor).last _
  have same : { f with magic := code } = f := by rw [← tagged]
  have decoded := Record.decodeTagged_append reads code .invalidMagic []
  rw [same] at decoded
  have long : ¬ (f.encode ++ rest).length < size := by
    rw [List.length_append, length_encode]
    exact Nat.not_lt.mpr (Nat.le_add_right ..)
  rw [ofBytes, if_neg long, List.take_left' f.length_encode, encode, tagged]
  simpa only [List.append_assoc, List.append_nil] using decoded

namespace BlockHeader

/-- **A header is read back** by the decoder of its kind, whatever follows it. -/
theorem ofBytes_encode (header : BlockHeader) (rest : Bytes) :
    ofBytes header.tag (header.encode ++ rest) = .ok header := by
  cases header with
  | fileHeader h => simp only [ofBytes, tag, encode, h.ofBytes_encode]; rfl
  | rawInfo h => simp only [ofBytes, tag, encode, h.ofBytes_encode]; rfl
  | videoFrame h => simp only [ofBytes, tag, encode, h.ofBytes_encode]; rfl

/-- A header starts with the code of its kind. -/
theorem take_encode (header : BlockHeader) (rest : Bytes) :
    (header.encode ++ rest).take 4 = header.tag.code.bytes := by
  cases header <;>
    simp only [encode, FileHeader.encode, RawInfoHeader.encode, VideoFrameHeader.encode, tag,
      List.append_assoc] <;>
    exact List.take_left' (FixedBytes.length_eq _)

end BlockHeader

end RawReel
