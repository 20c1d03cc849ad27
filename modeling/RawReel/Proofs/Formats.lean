import RawReel.Proofs.Decoded

/-!
# Records have one packed form

* `Record.Exact`: decoding and encoding undo each other, and just the bytes that
  start with a whole record behind its magic are decoded;
* `Record.ExactHeader`: a header moreover refuses other bytes for their tag, or
  for the field that they end in;
* `stored_records_exact`: what a camera stores, footers and sensor descriptors;
* `header_records_exact`: the headers of the three kinds of block.
-/

namespace RawReel

open Cursor

namespace Record

/-- A record takes up `size` bytes. What was encoded is decoded in front of
whatever follows it, bytes are decoded just if they start with the magic and are
enough for a record, and what was decoded is encoded as it stood. -/
structure Exact {α : Type} (magic : Bytes) (size : Nat) (encode : α → Bytes)
    (decode : Bytes → Except FormatError α) : Prop where
  length_encode : ∀ x, (encode x).length = size
  decode_encode : ∀ x, magic <+: encode x → ∀ rest, decode (encode x ++ rest) = .ok x
  accepted_iff : ∀ data, (∃ x, decode data = .ok x) ↔ size ≤ data.length ∧ magic <+: data
  encode_decode : ∀ data x, decode data = .ok x → encode x = data.take size

/-- A header of the kind `tag` is packed in the fields of `layout`, its tag first.
Bytes with another tag are refused for it, however few they are; bytes without a
whole tag, or with the right one, are refused for the first field that they do
not hold in full. -/
structure ExactHeader {α : Type} (tag : BlockTag) (layout : Layout) (encode : α → Bytes)
    (decode : Bytes → Except FormatError α) : Prop
    extends Exact tag.code.bytes layout.size encode decode where
  tagged : ∀ x, tag.code.bytes <+: encode x
  other_tag : ∀ (data : Bytes) (found : FourCC), found.bytes <+: data → found ≠ tag.code →
    decode data = .error (.invalidBlockType tag found)
  cut_short : ∀ data : Bytes, data.length < layout.size →
    (data.length < 4 ∨ tag.code.bytes <+: data) →
    ∃ (front back : Layout) (field : Field), layout = front ++ field :: back ∧
      front.size ≤ data.length ∧ data.length < front.size + field.width ∧
      decode data = .error (.layout
        ⟨.unexpectedEof, field.request ++ s!": out of bounds at byte {front.size}"⟩)

variable {α : Type} {magic : Bytes} {size : Nat} {encode : α → Bytes}
  {decode : Bytes → Except FormatError α}

/-- A decoder that accepts all whole records is exact if what it gives stands,
encoded, in front of the bytes. -/
theorem exact_of_stands (length_encode : ∀ x, (encode x).length = size)
    (decode_encode : ∀ x, magic <+: encode x → ∀ rest, decode (encode x ++ rest) = .ok x)
    (accepts : ∀ data : Bytes, size ≤ data.length → magic <+: data → ∃ x, decode data = .ok x)
    (stands : ∀ data x, decode data = .ok x → encode x <+: data)
    (starts : ∀ data x, decode data = .ok x → magic <+: data) :
    Exact magic size encode decode where
  length_encode := length_encode
  decode_encode := decode_encode
  accepted_iff := by
    intro data
    constructor
    · rintro ⟨x, decoded⟩
      refine ⟨?_, starts data x decoded⟩
      rw [← length_encode x]
      exact (stands data x decoded).length_le
    · rintro ⟨long, tagged⟩
      exact accepts data long tagged
  encode_decode := by
    intro data x decoded
    rw [← length_encode x]
    exact List.prefix_iff_eq_take.mp (stands data x decoded)

/-- A header is exact if the fields behind its tag are those of the layout, read in
their order and read back. -/
theorem exactHeader_of_follows {tag : BlockTag} {later : Layout} {read : Read α}
    (length_encode : ∀ x, (encode x).length = Layout.size (.bytes 4 :: later))
    (tagged : ∀ x, tag.code.bytes <+: encode x)
    (decode_encode : ∀ x rest,
      decodeTagged tag.code (.invalidBlockType tag) read (encode x ++ rest) = .ok x)
    (takes : Takes read tag.code.bytes encode) (follows : Follows read later) :
    ExactHeader tag (.bytes 4 :: later) encode
      (decodeTagged tag.code (.invalidBlockType tag) read) := by
  have exact : Exact tag.code.bytes (Layout.size (.bytes 4 :: later)) encode
      (decodeTagged tag.code (.invalidBlockType tag) read) := by
    apply exact_of_stands length_encode
    · intro x _ rest
      exact decode_encode x rest
    · intro data long starts
      exact decodeTagged_whole follows starts long _
    · intro data x decoded
      exact decodeTagged_ok takes decoded
    · intro data x decoded
      exact starts_of_decodeTagged decoded
  refine { exact with tagged, other_tag := ?_, cut_short := ?_ }
  · intro data found starts other
    rw [decodeTagged_of_starts starts, if_neg other]
  · intro data short tagged
    obtain ⟨front, field, back, split, starts, ends⟩ := Layout.exists_cut short
    refine ⟨front, back, field, split, starts, ends, ?_⟩
    rw [decodeTagged_cut follows tagged split starts ends, Field.toIoError_cutAt]

end Record

theorem SensorInfo.exact : Record.Exact [] 160 encode ofBytes := by
  apply Record.exact_of_stands length_encode
  · intro s _ rest
    exact s.ofBytes_encode rest
  · intro data long _
    obtain ⟨s, read_eq⟩ := follows.whole ⟨data, 0⟩ long
    exact ⟨s, by rw [ofBytes, Record.decode, Record.fields, Cursor.ofBytes, read_eq]⟩
  · intro data s decoded
    rw [ofBytes, Record.decode, Record.fields] at decoded
    split at decoded
    · next other c read_eq =>
      cases decoded
      have stood := takes _ _ _ read_eq
      exact ⟨c.rest, stood.symm⟩
    · cases decoded
  · intro data _ _
    exact List.nil_prefix

namespace Footer

/-- A footer starts with its magic. -/
theorem starts_iff (f : Footer) (found : FourCC) : found.bytes <+: f.encode ↔ f.magic = found := by
  have magic_first : f.magic.bytes <+: f.encode := by
    simp only [encode, List.append_assoc]
    exact List.prefix_append ..
  constructor
  · intro starts
    have same_length : f.magic.bytes.length = found.bytes.length := by
      rw [f.magic.length_eq, found.length_eq]
    exact FixedBytes.ext ((List.prefix_of_prefix_length_le magic_first starts
      (Nat.le_of_eq same_length)).eq_of_length same_length)
  · rintro rfl
    exact magic_first

theorem ofBytes_other {data : Bytes} {found : FourCC} (long : size ≤ data.length)
    (starts : found.bytes <+: data) (other : found ≠ code) :
    ofBytes data = .error (.invalidMagic found) := by
  have starts' : found.bytes <+: data.take size := by
    rw [List.prefix_take_iff, found.length_eq]
    exact ⟨starts, by decide⟩
  rw [ofBytes, if_neg (Nat.not_lt.mpr long), Record.decodeTagged_of_starts starts', if_neg other]

theorem ofBytes_short {data : Bytes} (short : data.length < size) :
    ofBytes data = .error (.truncated data.length size) := if_pos short

theorem exact : Record.Exact code.bytes size encode ofBytes := by
  have long_of_ok (data : Bytes) (f : Footer) (decoded : ofBytes data = .ok f) :
      size ≤ data.length ∧ code.bytes <+: data := by
    by_cases short : data.length < size
    · rw [ofBytes_short short] at decoded
      cases decoded
    · rw [ofBytes, if_neg short] at decoded
      have starts := Record.starts_of_decodeTagged decoded
      exact ⟨Nat.le_of_not_lt short, starts.trans (List.take_prefix ..)⟩
  apply Record.exact_of_stands length_encode
  · intro f starts rest
    exact ofBytes_encode ((starts_iff f code).mp starts) rest
  · intro data long starts
    obtain ⟨found, found_eq, decoded⟩ := ofBytes_whole long
    have same : found = code := by
      apply FixedBytes.ext
      have taken := List.prefix_iff_eq_take.mp starts
      rw [found_eq, taken, code.length_eq]
    rwa [if_pos same] at decoded
  · intro data f decoded
    rw [encode_ofBytes decoded]
    exact List.take_prefix ..
  · intro data f decoded
    exact (long_of_ok data f decoded).2

end Footer

/-- **What a camera stores has one packed form.** A footer is decoded from any bytes
that start with one, and from nothing else; other bytes are refused because they
are too few or for their magic, and never for a field. A sensor descriptor is
decoded from any bytes that are enough. Both are encoded as they stood. -/
theorem stored_records_exact :
    Record.Exact [0x52, 0x41, 0x57, 0x4D] 192 Footer.encode Footer.ofBytes ∧
    (∀ f : Footer, [0x52, 0x41, 0x57, 0x4D] <+: f.encode ↔
      f.magic.bytes = [0x52, 0x41, 0x57, 0x4D]) ∧
    (∀ data : Bytes, data.length < 192 →
      Footer.ofBytes data = .error (.truncated data.length 192)) ∧
    (∀ (data : Bytes) (found : FourCC), 192 ≤ data.length → found.bytes <+: data →
      found.bytes ≠ [0x52, 0x41, 0x57, 0x4D] →
      Footer.ofBytes data = .error (.invalidMagic found)) ∧
    (∀ data cause, Footer.ofBytes data ≠ .error (.layout cause)) ∧
    Record.Exact [] 160 SensorInfo.encode SensorInfo.ofBytes := by
  refine ⟨Footer.exact, ?_, ?_, ?_, ?_, SensorInfo.exact⟩
  · intro f
    constructor
    · intro starts
      exact congrArg FixedBytes.bytes ((f.starts_iff Footer.code).mp starts)
    · intro same
      exact (f.starts_iff Footer.code).mpr (FixedBytes.ext same)
  · intro data short
    exact Footer.ofBytes_short short
  · intro data found long starts other
    exact Footer.ofBytes_other long starts fun same => other (congrArg FixedBytes.bytes same)
  · intro data cause refused
    by_cases short : data.length < Footer.size
    · rw [Footer.ofBytes_short short] at refused
      cases refused
    · obtain ⟨found, _, decoded⟩ := Footer.ofBytes_whole (Nat.le_of_not_lt short)
      split at decoded
      · obtain ⟨f, decoded⟩ := decoded
        rw [decoded] at refused
        cases refused
      · rw [decoded] at refused
        cases refused

/-- Two bytes behind a footer do not matter; one too few, and a wrong magic, do. -/
theorem stored_records_exact_of_sevens :
    let sevens (count : Nat) : Bytes := List.replicate count 7
    (∃ f, Footer.ofBytes ([0x52, 0x41, 0x57, 0x4D] ++ sevens 190) = .ok f ∧
      f.encode = [0x52, 0x41, 0x57, 0x4D] ++ sevens 188) ∧
    Footer.ofBytes (sevens 191) = .error (.truncated 191 192) ∧
    Footer.ofBytes (sevens 192) = .error (.invalidMagic ⟨[7, 7, 7, 7], rfl⟩) ∧
    ∃ s, SensorInfo.ofBytes (sevens 161) = .ok s ∧ s.encode = sevens 160 := by
  intro sevens
  have length_sevens (count : Nat) : (sevens count).length = count := List.length_replicate
  have take_sevens (few count : Nat) : (sevens count).take few = sevens (min few count) :=
    List.take_replicate
  obtain ⟨footers, _, short, other, _, sensors⟩ := stored_records_exact
  have enough : 192 ≤ ([0x52, 0x41, 0x57, 0x4D] ++ sevens 190).length := by
    rw [List.length_append, length_sevens]
    decide
  obtain ⟨f, decoded⟩ := (footers.accepted_iff _).mpr ⟨enough, List.prefix_append ..⟩
  obtain ⟨s, described⟩ := (sensors.accepted_iff (sevens 161)).mpr
    ⟨by rw [length_sevens]; decide, List.nil_prefix⟩
  have refused := short (sevens 191) (by rw [length_sevens]; decide)
  rw [length_sevens] at refused
  refine ⟨⟨f, decoded, ?_⟩, refused, ?_, s, described, ?_⟩
  · rw [footers.encode_decode _ f decoded, List.take_append, take_sevens]
    rfl
  · apply other (sevens 192)
    · exact Nat.le_of_eq (length_sevens 192).symm
    · exact ⟨sevens 188, rfl⟩
    · decide
  · rw [sensors.encode_decode _ s described, take_sevens]
    rfl

/-- A header starts with the code of its kind. -/
theorem BlockHeader.tag_starts (header : BlockHeader) :
    header.tag.code.bytes <+: header.encode := by
  have taken := header.take_encode []
  rw [List.append_nil] at taken
  rw [← taken]
  exact List.take_prefix ..

/-- **Headers have one packed form.** Of each of the three kinds, a header is
decoded from any bytes that start with one, and from nothing else, and it is
encoded as it stood. Other bytes are refused for their tag, or for the first
field that they do not hold in full. -/
theorem header_records_exact :
    (Record.ExactHeader .fileHeader FileHeader.layout FileHeader.encode FileHeader.ofBytes ∧
      FileHeader.layout.size = 52 ∧
      BlockTag.fileHeader.code.bytes = [0x4D, 0x4C, 0x56, 0x49]) ∧
    (Record.ExactHeader .rawInfo RawInfoHeader.layout RawInfoHeader.encode
        RawInfoHeader.ofBytes ∧
      RawInfoHeader.layout.size = 180 ∧
      BlockTag.rawInfo.code.bytes = [0x52, 0x41, 0x57, 0x49]) ∧
    (Record.ExactHeader .videoFrame VideoFrameHeader.layout VideoFrameHeader.encode
        VideoFrameHeader.ofBytes ∧
      VideoFrameHeader.layout.size = 32 ∧
      BlockTag.videoFrame.code.bytes = [0x56, 0x49, 0x44, 0x46]) := by
  refine ⟨⟨?_, rfl, rfl⟩, ⟨?_, rfl, rfl⟩, ⟨?_, rfl, rfl⟩⟩
  · apply Record.exactHeader_of_follows
    · exact FileHeader.length_encode
    · intro h
      exact (BlockHeader.fileHeader h).tag_starts
    · exact FileHeader.ofBytes_encode
    · exact FileHeader.takes
    · exact FileHeader.follows
  · apply Record.exactHeader_of_follows
    · exact RawInfoHeader.length_encode
    · intro h
      exact (BlockHeader.rawInfo h).tag_starts
    · exact RawInfoHeader.ofBytes_encode
    · exact RawInfoHeader.takes
    · exact RawInfoHeader.follows
  · apply Record.exactHeader_of_follows
    · exact VideoFrameHeader.length_encode
    · intro h
      exact (BlockHeader.videoFrame h).tag_starts
    · exact VideoFrameHeader.ofBytes_encode
    · exact VideoFrameHeader.takes
    · exact VideoFrameHeader.follows

/-- A byte behind a header does not matter. A header that ends in its time is
refused, and a raw info header is no file header, though it ends behind its tag. -/
theorem header_records_exact_of_sevens :
    let sevens (count : Nat) : Bytes := List.replicate count 7
    (∃ h, VideoFrameHeader.ofBytes ([0x56, 0x49, 0x44, 0x46] ++ sevens 29) = .ok h ∧
      h.encode = [0x56, 0x49, 0x44, 0x46] ++ sevens 28) ∧
    (∃ text, VideoFrameHeader.ofBytes ([0x56, 0x49, 0x44, 0x46] ++ sevens 6) =
      .error (.layout ⟨.unexpectedEof, text⟩)) ∧
    FileHeader.ofBytes [0x52, 0x41, 0x57, 0x49] =
      .error (.invalidBlockType .fileHeader BlockTag.rawInfo.code) := by
  intro sevens
  obtain ⟨⟨files, _⟩, _, ⟨frames, _⟩⟩ := header_records_exact
  obtain ⟨h, decoded⟩ := (frames.accepted_iff ([0x56, 0x49, 0x44, 0x46] ++ sevens 29)).mpr
    ⟨by decide, List.prefix_append ..⟩
  obtain ⟨_, _, _, _, _, _, refused⟩ := frames.cut_short
    ([0x56, 0x49, 0x44, 0x46] ++ sevens 6) (by decide) (.inr (List.prefix_append ..))
  refine ⟨⟨h, decoded, (frames.encode_decode _ h decoded).trans rfl⟩, ⟨_, refused⟩, ?_⟩
  exact files.other_tag _ BlockTag.rawInfo.code List.prefix_rfl (by decide)

/-- The refusal of a header that ends in its time tells where that starts. -/
example : VideoFrameHeader.ofBytes [0x56, 0x49, 0x44, 0x46, 0, 0, 0, 0, 1, 2] =
    .error (.layout ⟨.unexpectedEof, "get_n(64): out of bounds at byte 8"⟩) := rfl

end RawReel
