import RawReel.Block
import RawReel.Proofs.FileSet

/-!
# Reading at an offset

What a read at an offset gives does not hang on how the stream hands out its
bytes. Nothing is asked here of the other files of the set, nor of how long they
were when they were measured.

* `ByteStream.Gives`: reads, one after the other, that are on the way to filling
  a buffer;
* `Gives.fill`: filling goes on behind them with what is still missing;
* `readAt_any_delivery`: a read at an offset gives the bytes that stand there, or
  the failure that it comes upon, and moves no other file.
-/

namespace RawReel

namespace ByteStream

section
variable {σ : Type} [ByteStream σ]

/-- Reads of a stream, each for what is still missing of `want` bytes, that have
given `got` and leave the stream as the last one says. None of them failed, and
none of them found the end. -/
inductive Gives (s : σ) (want : Nat) : (got : Bytes) → (now : σ) → Prop
  | start : Gives s want [] s
  | delivered {got more : Bytes} {now next : σ} (before : Gives s want got now)
      (missing : got.length < want)
      (read_eq : read now (want - got.length) = (.delivered more, next)) (some : more ≠ []) :
      Gives s want (got ++ more) next
  | interrupted {got : Bytes} {now next : σ} (before : Gives s want got now)
      (missing : got.length < want)
      (read_eq : read now (want - got.length) = (.interrupted, next)) : Gives s want got next

/-- What filling makes of its next read, if anything is missing. -/
theorem fill_eq {want : Nat} (positive : 0 < want) (s : σ) :
    fill s want =
      match read s want with
      | (.delivered [], s') => ⟨s', [], .ok ()⟩
      | (.delivered (b :: bytes), s') =>
        let rest := fill s' (want - (b :: bytes).length)
        { rest with received := (b :: bytes) ++ rest.received }
      | (.interrupted, s') => fill s' want
      | (.failed cause, s') => ⟨s', [], .error cause⟩ := by
  rw [fill, if_neg (Nat.ne_of_gt positive)]
  split <;> next read_eq => rw [read_eq]

/-- **Filling goes on behind reads that were made**, for what they left missing. -/
theorem Gives.fill {s now : σ} {want : Nat} {got : Bytes} (gives : Gives s want got now) :
    ByteStream.fill s want =
      let rest := ByteStream.fill now (want - got.length)
      { rest with received := got ++ rest.received } := by
  induction gives with
  | start => rfl
  | @delivered got more now next before missing read_eq some ih =>
    obtain ⟨b, bytes, rfl⟩ := List.exists_cons_of_ne_nil some
    rw [ih, fill_eq (Nat.sub_pos_of_lt missing), read_eq]
    simp only [List.length_append, List.append_assoc, Nat.sub_sub]
  | @interrupted got now next before missing read_eq ih =>
    rw [ih, fill_eq (Nat.sub_pos_of_lt missing), read_eq]

theorem Gives.fill_failed {s now last : σ} {want : Nat} {got : Bytes} {cause : IoError}
    (gives : Gives s want got now) (missing : got.length < want)
    (read_eq : read now (want - got.length) = (.failed cause, last)) :
    ByteStream.fill s want = ⟨last, got, .error cause⟩ := by
  rw [gives.fill, fill_eq (Nat.sub_pos_of_lt missing), read_eq]
  simp only [List.append_nil]

end

end ByteStream

open ByteStream

namespace FileSet

section
variable {σ : Type}

theorem members_setStream_self {files : FileSet σ} {file : Nat} {member : Member σ}
    (there : files.members[file]? = some member) (stream : σ) :
    (files.setStream file stream).members[file]? = some { member with stream } := by
  simp only [setStream, List.getElem?_modify, there, ↓reduceIte, Option.map_eq_map,
    Option.map_some]

theorem members_setStream_other (files : FileSet σ) {file other : Nat} (ne : other ≠ file)
    (stream : σ) : (files.setStream file stream).members[other]? = files.members[other]? := by
  simp only [setStream, List.getElem?_modify, if_neg (Ne.symm ne), id_map']

end

section
variable {σ : Type} [ByteStream σ]

/-- A read of one file moves no other. -/
theorem members_readAt_other (files : FileSet σ) {file other : Nat} (ne : other ≠ file)
    (offset want : Nat) :
    (files.readAt file offset want).files.members[other]? = files.members[other]? := by
  unfold readAt
  split
  · rfl
  · split <;> exact members_setStream_other files ne _

theorem readAt_of_seek {files : FileSet σ} {file : Nat} {member : Member σ}
    (there : files.members[file]? = some member) {offset : Nat} {moved : σ}
    (seek_eq : seek member.stream offset = (.ok (), moved)) (want : Nat) :
    let access := files.readAt file offset want
    let filled := fill moved want
    access.outcome = filled.outcome ∧ access.received = filled.received ∧
      access.files.members[file]? = some { member with stream := filled.stream } := by
  simp only [readAt, there, seek_eq, true_and]
  exact members_setStream_self there _

theorem readAt_unknown {files : FileSet σ} {file : Nat} (outside : files.size ≤ file)
    (offset want : Nat) :
    files.readAt file offset want = ⟨files, [], .error (unknownFile file), []⟩ := by
  have nothing : files.members[file]? = none := List.getElem?_eq_none outside
  rw [readAt, nothing]

/-- **A read at an offset does not hang on how the stream hands out its bytes.** It
puts the bytes that stand there at the front of the buffer, as far as there are
any, leaves the rest of the buffer as it was, and the stream behind them. If a
read fails while bytes are still missing, its error is given. No other file is
moved, and none at all if the file is not part of the set. -/
theorem readAt_any_delivery (files : FileSet σ) (file offset : Nat) (buffer : FrameBuffer) :
    let access := files.readAt file offset buffer.size
    (∀ member data At p, files.members[file]? = some member → Faithful data At →
      At member.stream p →
      let count := min buffer.size (data.length - offset)
      access.outcome = .ok () ∧ access.received.length = count ∧
      (buffer.overwrite access.received).contents =
        (data.drop offset).take count ++ buffer.contents.drop count ∧
      ∃ stream, access.files.members[file]? = some { member with stream } ∧
        At stream (offset + count)) ∧
    (∀ member moved got now cause last, files.members[file]? = some member →
      seek member.stream offset = (.ok (), moved) → Gives moved buffer.size got now →
      got.length < buffer.size → read now (buffer.size - got.length) = (.failed cause, last) →
      access.outcome = .error cause ∧
      access.files.members[file]? = some { member with stream := last }) ∧
    (files.size ≤ file →
      access.files = files ∧ ∃ text, access.outcome = .error ⟨.notFound, text⟩) ∧
    ∀ other, other ≠ file → access.files.members[other]? = files.members[other]? := by
  intro access
  refine ⟨?_, ?_, ?_, ?_⟩
  · intro member data At p there faithful stands count
    obtain ⟨moved, seek_eq, stands⟩ := faithful.seek offset stands
    obtain ⟨outcome, received, at_file⟩ := readAt_of_seek there seek_eq buffer.size
    obtain ⟨filled_eq, filled_ok, behind⟩ := faithful.fill stands buffer.size
    rw [← received] at filled_eq
    have length_eq : access.received.length = count := by
      rw [filled_eq, List.length_take, List.length_drop]
    refine ⟨outcome.trans filled_ok, length_eq, ?_, _, at_file, behind⟩
    have fits : access.received.length ≤ buffer.size := length_eq ▸ Nat.min_le_left ..
    rw [buffer.contents_overwrite fits, length_eq, filled_eq, List.take_eq_take_min,
      List.length_drop]
  · intro member moved got now cause last there seek_eq gives missing read_eq
    obtain ⟨outcome, _, at_file⟩ := readAt_of_seek there seek_eq buffer.size
    rw [gives.fill_failed missing read_eq] at outcome at_file
    exact ⟨outcome, at_file⟩
  · intro outside
    have unknown : access = _ := readAt_unknown outside offset buffer.size
    rw [unknown]
    exact ⟨rfl, _, rfl⟩
  · intro other ne
    exact members_readAt_other files ne offset buffer.size

end

/-- A stream that hands out two bytes at a time and is interrupted three times. -/
def worn : MemoryStream :=
  { MemoryStream.ofBytes [0, 1, 2, 3, 4, 5] with portion := some 2, interrupts := 3, position := 5 }

/-- A stream that hands out two bytes at a time, up to a place where it fails. -/
def torn : MemoryStream :=
  { MemoryStream.ofBytes [10, 11, 12, 13, 14, 15] with portion := some 2, failReadAt := some 4 }

/-- Behind three reads that are interrupted, the first file gives what it has; the
second fails behind three bytes; there is no third one. -/
theorem readAt_any_delivery_worn_and_torn :
    let files : FileSet MemoryStream := ⟨[⟨worn, 6⟩, ⟨torn, 6⟩]⟩
    let buffer : FrameBuffer := ⟨8, [9, 9, 9, 9, 9, 9, 9, 9], by decide⟩
    ((files.readAt 0 3 8).outcome = .ok () ∧
      (buffer.overwrite (files.readAt 0 3 8).received).contents = [3, 4, 5, 9, 9, 9, 9, 9] ∧
      (∃ stream, (files.readAt 0 3 8).files.members[0]? = some ⟨stream, 6⟩ ∧
        stream.position = 6) ∧
      (files.readAt 0 3 8).files.members[1]? = some ⟨torn, 6⟩) ∧
    (files.readAt 1 1 8).outcome = .error MemoryStream.readFailure ∧
    (files.readAt 1 1 8).files.members[0]? = some ⟨worn, 6⟩ ∧
    (files.readAt 2 0 8).files = files ∧
    ∃ text, (files.readAt 2 0 8).outcome = .error ⟨.notFound, text⟩ := by
  intro files buffer
  let source := MemoryStream.source worn.data worn.readable none
  have faithful : Faithful worn.data source.At := faithful_of_source source fun _ => rfl
  have stands : source.At worn 5 := ⟨rfl, rfl, rfl, rfl, rfl, nofun⟩
  obtain ⟨reads, _, _, others⟩ := readAt_any_delivery files 0 3 buffer
  obtain ⟨outcome, _, contents, stream, at_file, behind⟩ :=
    reads ⟨worn, 6⟩ worn.data source.At 5 rfl faithful stands
  obtain ⟨_, fails, _, others'⟩ := readAt_any_delivery files 1 1 buffer
  have two : Gives { torn with seeks := 1, position := 1 } 8 [11, 12]
      { torn with seeks := 1, position := 3 } :=
    .delivered .start (by decide) rfl (by decide)
  have three : Gives { torn with seeks := 1, position := 1 } 8 [11, 12, 13]
      { torn with seeks := 1, position := 4 } :=
    .delivered two (by decide) rfl (by decide)
  obtain ⟨failed, _⟩ := fails ⟨torn, 6⟩ _ _ _ MemoryStream.readFailure _ rfl rfl three
    (by decide) rfl
  obtain ⟨_, _, unknown, _⟩ := readAt_any_delivery files 2 0 buffer
  obtain ⟨same, text, not_found⟩ := unknown (by decide)
  refine ⟨⟨outcome, contents, ⟨stream, at_file, ?_⟩, others 1 (by decide)⟩, failed,
    others' 0 (by decide), same, text, not_found⟩
  obtain ⟨_, _, _, position_eq, _⟩ := behind
  exact position_eq

end FileSet

end RawReel
