import RawReel.Proofs.Codec
import RawReel.Proofs.Fields

/-!
# What was decoded is encoded as it stood

* `Cursor.Takes`: whatever a reader gives, its encoding is what the reader took;
* `Takes.bind`: readers one after the other take one encoding after the other;
* `Footer.encode_ofBytes`: a footer that was decoded from bytes is encoded to
  those bytes again, so that none of its fields is cut or exchanged;
* `Footer.ofBytes_whole`: only the magic keeps enough bytes from being a footer.
-/

namespace RawReel

namespace Cursor

/-- Whatever `read` gives, its encoding is `front` and then the bytes that were
read. -/
def Takes {α : Type} (read : Read α) (front : Bytes) (encode : α → Bytes) : Prop :=
  ∀ (c c' : Cursor) (x : α), read c = .ok x c' → front ++ c.rest = encode x ++ c'.rest

theorem Takes.bind {α β : Type} {read : Read α} {next : α → Read β} {front : Bytes}
    {encode : α → Bytes} {encode' : β → Bytes} (takes : Takes read [] encode)
    (later : ∀ x, Takes (next x) (front ++ encode x) encode') :
    Takes (read >>= next) front encode' := by
  intro c c'' y ok
  simp only [Bind.bind, EStateM.bind] at ok
  split at ok
  · next x c' read_eq =>
    have first : [] ++ c.rest = encode x ++ c'.rest := takes _ _ _ read_eq
    have rest := later x _ _ _ ok
    rw [List.append_assoc] at rest
    rw [← rest, ← first, List.nil_append]
  · cases ok

theorem takes_pure {α : Type} {x : α} {front : Bytes} {encode : α → Bytes}
    (same : front = encode x) : Takes (pure x) front encode := by
  intro c c' y ok
  cases ok
  rw [same]

theorem takes_word {α : Type} [Word α] : Takes (word α) [] Word.encode := by
  intro c c' x ok
  unfold word at ok
  split at ok
  · next fits =>
    cases ok
    rw [Word.encode_decode (List.length_take_of_le fits), List.nil_append,
      List.take_append_drop]
  · cases ok

theorem takes_fixed {n : Nat} : Takes (fixed n) [] FixedBytes.bytes := by
  intro c c' x ok
  unfold fixed at ok
  split at ok
  · cases ok
    exact (List.take_append_drop n c.rest).symm
  · cases ok

end Cursor

open Cursor

theorem PreviewCrop.takes : Takes read [] encode :=
  takes_word.bind fun _ => takes_word.bind fun _ => takes_word.bind fun _ =>
  takes_word.bind fun _ => takes_pure rfl

theorem ActiveArea.takes : Takes read [] encode :=
  takes_word.bind fun _ => takes_word.bind fun _ => takes_word.bind fun _ =>
  takes_word.bind fun _ => takes_pure rfl

theorem Ratio.takes : Takes read [] encode :=
  takes_word.bind fun _ => takes_word.bind fun _ => takes_pure rfl

theorem ColorRow.takes : Takes read [] encode :=
  Ratio.takes.bind fun _ => Ratio.takes.bind fun _ => Ratio.takes.bind fun _ => takes_pure rfl

theorem ColorMatrix.takes : Takes read [] encode :=
  ColorRow.takes.bind fun _ => ColorRow.takes.bind fun _ => ColorRow.takes.bind fun _ =>
    takes_pure rfl

theorem SensorInfo.takes : Takes read [] encode :=
  takes_word.bind fun _ => takes_word.bind fun _ => takes_word.bind fun _ =>
  takes_word.bind fun _ => takes_word.bind fun _ => takes_word.bind fun _ =>
  takes_word.bind fun _ => takes_word.bind fun _ => takes_word.bind fun _ =>
  PreviewCrop.takes.bind fun _ => ActiveArea.takes.bind fun _ =>
  Ratio.takes.bind fun _ => takes_word.bind fun _ => takes_word.bind fun _ =>
  ColorMatrix.takes.bind fun _ => takes_word.bind fun _ => takes_pure rfl

/-- A record that was decoded stands, encoded, at the start of the bytes. -/
theorem Record.decodeTagged_ok {α : Type} {code : FourCC} {refused : FourCC → FormatError}
    {read : Read α} {encode : α → Bytes} {data : Bytes} {x : α}
    (takes : Takes read code.bytes encode) (ok : decodeTagged code refused read data = .ok x) :
    encode x <+: data := by
  have starts : code.bytes <+: data := starts_of_decodeTagged ok
  rw [decodeTagged_of_starts starts, if_pos rfl, fields] at ok
  split at ok
  · next y c' read_eq =>
    cases ok
    obtain ⟨rest, rfl⟩ := starts
    have stood := takes _ _ _ read_eq
    rw [List.drop_left' code.length_eq] at stood
    exact ⟨c'.rest, stood.symm⟩
  · cases ok

theorem FileHeader.takes : Takes readFields BlockTag.fileHeader.code.bytes encode :=
  takes_word.bind fun _ => takes_fixed.bind fun _ => takes_word.bind fun _ =>
  takes_word.bind fun _ => takes_word.bind fun _ => takes_word.bind fun _ =>
  takes_word.bind fun _ => takes_word.bind fun _ => takes_word.bind fun _ =>
  takes_word.bind fun _ => takes_word.bind fun _ => takes_word.bind fun _ => takes_pure rfl

theorem RawInfoHeader.takes : Takes readFields BlockTag.rawInfo.code.bytes encode :=
  takes_word.bind fun _ => takes_word.bind fun _ => takes_word.bind fun _ =>
  takes_word.bind fun _ => SensorInfo.takes.bind fun _ => takes_pure rfl

theorem VideoFrameHeader.takes : Takes readFields BlockTag.videoFrame.code.bytes encode :=
  takes_word.bind fun _ => takes_word.bind fun _ => takes_word.bind fun _ =>
  takes_word.bind fun _ => takes_word.bind fun _ => takes_word.bind fun _ =>
  takes_word.bind fun _ => takes_word.bind fun _ => takes_pure rfl

namespace Footer

theorem takes : Takes readFields code.bytes encode :=
  takes_word.bind fun _ => takes_word.bind fun _ => takes_word.bind fun _ =>
  takes_word.bind fun _ => takes_word.bind fun _ => takes_word.bind fun _ =>
  takes_word.bind fun _ => takes_word.bind fun _ =>
  SensorInfo.takes.bind fun _ => takes_pure rfl

/-- Of bytes that are enough for a footer, only the magic can be wrong. -/
theorem ofBytes_whole {data : Bytes} (long : size ≤ data.length) :
    ∃ found : FourCC, found.bytes = data.take 4 ∧
      if found = code then ∃ footer, ofBytes data = .ok footer
      else ofBytes data = .error (.invalidMagic found) := by
  have four_le : 4 ≤ size := by decide
  have whole : (data.take size).length = size := List.length_take_of_le long
  let found : FourCC := ⟨data.take 4, List.length_take_of_le (Nat.le_trans four_le long)⟩
  have starts : found.bytes <+: data.take size := List.take_prefix_take_left four_le
  refine ⟨found, rfl, ?_⟩
  rw [ofBytes, if_neg (Nat.not_lt.mpr long)]
  split
  · next same =>
    have tagged : code.bytes <+: data.take size := same ▸ starts
    exact Record.decodeTagged_whole follows tagged (Nat.le_of_eq whole.symm) _
  · next other =>
    rw [Record.decodeTagged_of_starts starts, if_neg other]

/-- **A footer is encoded as it stood** in the bytes that it was decoded from. -/
theorem encode_ofBytes {data : Bytes} {footer : Footer} (decoded : ofBytes data = .ok footer) :
    footer.encode = data.take size := by
  unfold ofBytes at decoded
  split at decoded
  · cases decoded
  · have front : footer.encode <+: data.take size := Record.decodeTagged_ok takes decoded
    have long : (data.take size).length ≤ footer.encode.length := by
      rw [length_encode, List.length_take]
      exact Nat.min_le_left ..
    exact front.eq_of_length_le long

end Footer

end RawReel
