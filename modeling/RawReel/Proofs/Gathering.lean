import RawReel.Proofs.Run

/-!
# How a frame is put together

* `Extent`, `extentsFrom`: the stretches of files that a frame is read from;
* `gather_covered`: if every file holds at least what was measured, the rest of
  a frame is the bytes that follow in the files as they are;
* `readFrame_covered`: so is every frame of a reader laid out on those files.
-/

namespace RawReel

/-- A stretch of one file. -/
structure Extent where
  file : Nat
  offset : Nat
  count : Nat
  deriving DecidableEq

namespace Extent

def bytes (contents : List Bytes) (e : Extent) : Bytes :=
  ((contents.getD e.file []).drop e.offset).take e.count

end Extent

/-- The stretches that `want` bytes are read from, if the files from `file` on
hold these contents and reading starts at `offset` of the first. -/
def extentsFrom : (file offset want : Nat) → List Bytes → List Extent
  | _, _, _, [] => []
  | file, offset, want, data :: rest =>
    ⟨file, offset, min want (data.length - offset)⟩ ::
      if want ≤ data.length - offset then []
      else extentsFrom (file + 1) 0 (want - (data.length - offset)) rest

/-- The stretch that a report is about, if it is about reading. -/
def Diagnostic.extent? : Diagnostic → Option Extent
  | bytesRead count file offset => some ⟨file, offset, count⟩
  | _ => none

/-- The stretches that were read, in order. -/
def Log.extents (log : Log) : List Extent := log.filterMap Diagnostic.extent?

/-- Every file holds at least as many bytes as were measured. -/
abbrev Covers (lengths : List Nat) (contents : List Bytes) : Prop :=
  List.Forall₂ (fun length (data : Bytes) => length ≤ data.length) lengths contents

theorem Covers.sum_le {lengths : List Nat} {contents : List Bytes} (h : Covers lengths contents) :
    lengths.sum ≤ contents.flatten.length := by
  induction h with
  | nil => exact Nat.le_refl _
  | cons le _ ih =>
    rw [List.sum_cons, List.flatten_cons, List.length_append]
    exact Nat.add_le_add le ih

/-- Files that cover the measured lengths hold what stands before their end. -/
theorem Placed.enough {lengths : List Nat} {contents : List Bytes} {start file inner want : Nat}
    (placed : Placed lengths start file inner) (covers : Covers lengths contents)
    (fits : start + want ≤ lengths.sum) : want ≤ (contents.drop file).flatten.length - inner := by
  have rest_measured := Covers.sum_le (List.forall₂_drop file covers)
  have whole : (lengths.take file).sum + (lengths.drop file).sum = lengths.sum := by
    rw [← List.sum_append, List.take_append_drop]
  have start_eq := placed.offset_eq
  omega

theorem covers_self (contents : List Bytes) : Covers (contents.map List.length) contents := by
  rw [Covers, List.forall₂_map_left_iff, List.forall₂_same]
  exact fun data _ => Nat.le_refl data.length

/-- Bytes that start in the first of some files, and run on into the next ones
if it does not hold all of them. -/
theorem take_drop_flatten_cons (data : Bytes) (rest : List Bytes) {offset : Nat}
    (inside : offset ≤ data.length) (want : Nat) :
    ((data :: rest).flatten.drop offset).take want =
      (data.drop offset).take want ++ rest.flatten.take (want - (data.length - offset)) := by
  rw [List.flatten_cons, List.drop_append_of_le_length inside, List.take_append,
    List.length_drop]

/-- What is left of a frame once a file was read to its end. -/
theorem left_after (received data : Bytes) (frameSize offset : Nat) :
    frameSize - (received ++ data.drop offset).length =
      frameSize - received.length - (data.length - offset) := by
  rw [List.length_append, List.length_drop]
  omega

namespace Reader

theorem expected_le {σ : Type} {files : FileSet σ} {contents : List Bytes} {data : Bytes}
    {file : Nat} (covers : Covers files.lengths contents) (there : contents[file]? = some data)
    (offset want : Nat) :
    min want ((files.length? file).getD 0 - offset) ≤ data.length - offset := by
  obtain ⟨length, measured, le⟩ := forall₂_getElem? covers there
  rw [FileSet.length?, measured, Option.getD_some]
  omega

section
variable {σ : Type} [ByteStream σ] {contents : List Bytes} {data : Bytes} {files : FileSet σ}
  {frameSize file offset : Nat} {received : Bytes}

/-- A frame that ends in this file. -/
theorem gather_within (holds : files.Holds contents) (there : contents[file]? = some data)
    (fits : frameSize - received.length ≤ data.length - offset) (index left : Nat) :
    ∃ after : FileSet σ,
      gather index frameSize left files file offset received =
        ⟨after, received ++ (data.drop offset).take (frameSize - received.length), .ok (),
          [.bytesRead (frameSize - received.length) file offset]⟩ := by
  obtain ⟨after, _, _, read_eq⟩ := holds.readAt there offset (frameSize - received.length)
  have length_read : ((data.drop offset).take (frameSize - received.length)).length =
      frameSize - received.length := by
    rw [List.length_take, List.length_drop]
    omega
  refine ⟨after, ?_⟩
  unfold gather
  simp only [read_eq, Nat.min_eq_left fits, length_read, List.length_append]
  rw [if_neg (by omega), if_pos (by omega)]

/-- A frame that goes on in the next file. -/
theorem gather_beyond (holds : files.Holds contents) (there : contents[file]? = some data)
    (expected : min (frameSize - received.length) ((files.length? file).getD 0 - offset) ≤
      data.length - offset)
    (short : data.length - offset < frameSize - received.length) (index left : Nat) :
    ∃ after : FileSet σ, after.Holds contents ∧ after.lengths = files.lengths ∧
      gather index frameSize (left + 1) files file offset received =
        let rest := gather index frameSize left after (file + 1) 0 (received ++ data.drop offset)
        { rest with log := .bytesRead (data.length - offset) file offset ::
            .continues index (file + 1) :: rest.log } := by
  obtain ⟨after, still, lengths_eq, read_eq⟩ :=
    holds.readAt there offset (frameSize - received.length)
  have all_read : (data.drop offset).take (frameSize - received.length) = data.drop offset :=
    List.take_of_length_le (by rw [List.length_drop]; omega)
  refine ⟨after, still, lengths_eq, ?_⟩
  rw [gather]
  simp only [read_eq, all_read, List.length_append, List.length_drop,
    Nat.min_eq_right (Nat.le_of_lt short)]
  rw [if_neg (by omega), if_neg (by omega)]
  rfl

/-- **The rest of a frame is what follows in the files.** No read of it comes
short, since every file holds at least what was measured. -/
theorem gather_covered {rest : List Bytes} (holds : files.Holds contents)
    (covers : Covers files.lengths contents) (ahead : contents.drop file = data :: rest)
    (inside : offset ≤ data.length)
    (enough : frameSize - received.length ≤ (data :: rest).flatten.length - offset) (index : Nat) :
    let gathered := gather index frameSize rest.length files file offset received
    gathered.result = .ok () ∧
    gathered.received = received ++
      ((data :: rest).flatten.drop offset).take (frameSize - received.length) ∧
    Log.extents gathered.log =
      extentsFrom file offset (frameSize - received.length) (data :: rest) := by
  induction rest generalizing data files file offset received with
  | nil =>
    obtain ⟨there, _⟩ := of_drop_eq_cons ahead
    simp only [List.flatten_cons, List.flatten_nil, List.append_nil] at enough ⊢
    obtain ⟨after, gather_eq⟩ := gather_within holds there enough index 0
    rw [List.length_nil, gather_eq]
    refine ⟨rfl, rfl, ?_⟩
    rw [extentsFrom, if_pos enough, Nat.min_eq_left enough]
    rfl
  | cons next rest ih =>
    obtain ⟨there, ahead'⟩ := of_drop_eq_cons ahead
    by_cases fits : frameSize - received.length ≤ data.length - offset
    · obtain ⟨after, gather_eq⟩ :=
        gather_within holds there fits index (next :: rest).length
      rw [gather_eq, extentsFrom, if_pos fits, Nat.min_eq_left fits,
        take_drop_flatten_cons data _ inside, Nat.sub_eq_zero_of_le fits, List.take_zero,
        List.append_nil]
      exact ⟨rfl, rfl, rfl⟩
    · have short := Nat.lt_of_not_le fits
      have expected := expected_le covers there offset (frameSize - received.length)
      obtain ⟨after, still, lengths_eq, gather_eq⟩ :=
        gather_beyond holds there expected short index rest.length
      have left := left_after received data frameSize offset
      rw [List.flatten_cons, List.length_append] at enough
      have enough_left : frameSize - (received ++ data.drop offset).length ≤
          (next :: rest).flatten.length - 0 := by omega
      obtain ⟨result, received_eq, extents_eq⟩ :=
        ih still (lengths_eq ▸ covers) ahead' (Nat.zero_le _) enough_left
      rw [List.length_cons, gather_eq]
      refine ⟨result, ?_, ?_⟩
      · have all : (data.drop offset).take (frameSize - received.length) = data.drop offset :=
          List.take_of_length_le (by rw [List.length_drop]; omega)
        dsimp only
        rw [received_eq, left, List.drop_zero, List.append_assoc,
          take_drop_flatten_cons data _ inside, all]
      · rw [extentsFrom, if_neg fits, Nat.min_eq_right (Nat.le_of_lt short), ← left, ← extents_eq]
        rfl

end

/-- What fills the buffer is all that the buffer then holds. -/
theorem contents_overwrite_full (b : FrameBuffer) {front : Bytes} (full : front.length = b.size) :
    (b.overwrite front).contents = front := by
  rw [b.contents_overwrite_of_le (Nat.le_of_eq full.symm), ← full, List.take_length]

section
variable {σ η : Type} [ByteStream σ]

/-- A frame of the index is gathered from its place in the measured layout on, and
files that cover the layout hold all of it. -/
theorem readFrame_placed {r : Reader σ η} {files : FileSet σ} {contents : List Bytes} {index : Nat}
    (laid : r.Laid files.lengths) (there : r.files = some files)
    (covers : Covers files.lengths contents) (indexed : index < r.blockCount) :
    ∃ file inner data, Placed files.lengths (index * r.frameSize) file inner ∧
      contents.drop file = data :: contents.drop (file + 1) ∧ inner ≤ data.length ∧
      r.frameSize ≤ (data :: contents.drop (file + 1)).flatten.length - inner ∧
      let gathered := gather index r.frameSize (contents.drop (file + 1)).length files file inner []
      (r.readFrame index).result =
          gathered.result.map (fun _ => (r.buffer.overwrite gathered.received).contents) ∧
        (r.readFrame index).log = gathered.log := by
  have found := laid.get?_index indexed
  have fits := laid.frame_before_footer indexed
  rw [Nat.succ_mul] at fits
  have positive := laid.frameSize_pos
  have placed := place_placed laid.lengths_ne_nil (index * r.frameSize)
  simp only [BlockIndex.describeFrame] at found
  generalize (place files.lengths (index * r.frameSize)).1 = file at placed found
  generalize (place files.lengths (index * r.frameSize)).2 = inner at placed found
  have in_set : file < contents.length := covers.length_eq ▸ placed.file_lt
  have ahead := List.drop_eq_getElem_cons in_set
  generalize contents[file] = data at ahead
  obtain ⟨length, length_there, le⟩ := forall₂_getElem? covers (of_drop_eq_cons ahead).1
  have inside : inner < length := placed.inner_lt length_there (by omega)
  have enough : r.frameSize ≤ (data :: contents.drop (file + 1)).flatten.length - inner :=
    ahead ▸ placed.enough covers (by omega)
  have count : files.size = contents.length := by
    rw [← covers.length_eq, FileSet.lengths, List.length_map]
    rfl
  have files_left : files.size - 1 - file = (contents.drop (file + 1)).length := by
    rw [count, List.length_drop]
    omega
  refine ⟨file, inner, data, placed, ahead, by omega, enough, ?_⟩
  simp only [readFrame, there, found, files_left, and_self]

/-- **A frame is what stands from its place on.** If every file holds at least
what was measured, a frame of the index is read, from its place in the measured
layout on, out of the files as they are. -/
theorem readFrame_covered {r : Reader σ η} {lengths : List Nat} {contents : List Bytes}
    {files : FileSet σ} {index : Nat} (laid : r.Laid lengths) (there : r.files = some files)
    (measured : files.lengths = lengths) (holds : files.Holds contents)
    (covers : Covers lengths contents) (indexed : index < r.blockCount) :
    ∃ file inner, Placed lengths (index * r.frameSize) file inner ∧
      (r.readFrame index).result =
        .ok (((contents.drop file).flatten.drop inner).take r.frameSize) ∧
      Log.extents (r.readFrame index).log =
        extentsFrom file inner r.frameSize (contents.drop file) := by
  subst measured
  obtain ⟨file, inner, data, placed, ahead, inside, enough, read, log⟩ :=
    readFrame_placed laid there covers indexed
  have left : r.frameSize - ([] : Bytes).length ≤
      (data :: contents.drop (file + 1)).flatten.length - inner := enough
  obtain ⟨result, received, extents⟩ := gather_covered holds covers ahead inside left index
  rw [← ahead, List.length_nil, Nat.sub_zero] at received extents
  rw [List.nil_append] at received
  have full : (((contents.drop file).flatten.drop inner).take r.frameSize).length =
      r.buffer.size := by
    rw [ahead, List.length_take, List.length_drop, Nat.min_eq_left enough]
    rfl
  refine ⟨file, inner, placed, ?_, ?_⟩
  · rw [read, result, received, contents_overwrite_full _ full]
    rfl
  · rw [log, extents]

end

end Reader

end RawReel
