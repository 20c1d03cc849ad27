import Mathlib
import RawReel.Proofs.Gathering

/-!
# Files that grow

A camera may still write to the files of a recording that is being read. The
index is laid out on the lengths that were measured; reading is not bound by
them. Main statements:

* `extents_within_iff`: what is read stays within the measured lengths just if
  no file that grew ends inside of the stretch;
* `run_grown`: files that grow between calls cover the measured lengths;
* `grown_frames`: frames of grown files, and when they are those of the layout.
-/

namespace RawReel

/-- The files, each cut to its measured length. -/
def cut (lengths : List Nat) (contents : List Bytes) : List Bytes :=
  List.zipWith (fun length data => data.take length) lengths contents

theorem lengths_cut {lengths : List Nat} {contents : List Bytes} (covers : Covers lengths contents) :
    (cut lengths contents).map List.length = lengths := by
  induction covers with
  | nil => rfl
  | cons le _ ih =>
    rw [cut, List.zipWith_cons_cons, List.map_cons, List.length_take_of_le le]
    exact congrArg _ ih

theorem Covers.longer {lengths : List Nat} {now later : List Bytes} (covers : Covers lengths now)
    (longer : List.Forall₂ (· <+: ·) now later) : Covers lengths later := by
  induction covers generalizing later with
  | nil => cases longer; exact .nil
  | cons le _ ih =>
    obtain ⟨_, _, first, rest, rfl⟩ := List.forall₂_cons_left_iff.mp longer
    exact .cons (Nat.le_trans le first.length_le) (ih rest)

/-- The stretch ends within the measured length of its file. -/
def Extent.Within (lengths : List Nat) (e : Extent) : Prop :=
  e.offset + e.count ≤ lengths.getD e.file 0

/-- A stretch within the measured lengths is the same in the files cut to them. -/
theorem Extent.Within.bytes_cut {lengths : List Nat} {e : Extent} (within : e.Within lengths)
    (contents : List Bytes) : e.bytes (cut lengths contents) = e.bytes contents := by
  simp only [Within, List.getD_eq_getElem?_getD] at within
  simp only [bytes, cut, List.getD_eq_getElem?_getD, List.getElem?_zipWith]
  cases contents[e.file]? with
  | none => cases lengths[e.file]? <;> rfl
  | some data =>
    cases measured : lengths[e.file]? with
    | none =>
      rw [measured, Option.getD_none] at within
      have nothing : e.count = 0 := by omega
      rw [nothing, List.take_zero, List.take_zero]
    | some length =>
      rw [measured, Option.getD_some] at within
      simp only [Option.getD_some, List.drop_take, List.take_take]
      congr 1
      omega

/-- The stretches, put together, are the bytes that were wanted. -/
theorem flatMap_extents {contents rest : List Bytes} {file offset : Nat}
    (ahead : contents.drop file = rest)
    (inside : ∀ data, contents[file]? = some data → offset ≤ data.length) (want : Nat) :
    (extentsFrom file offset want rest).flatMap (Extent.bytes contents) =
      (rest.flatten.drop offset).take want := by
  induction rest generalizing file offset want with
  | nil => simp [extentsFrom]
  | cons data rest ih =>
    obtain ⟨there, ahead'⟩ := of_drop_eq_cons ahead
    have first : Extent.bytes contents ⟨file, offset, min want (data.length - offset)⟩ =
        (data.drop offset).take want := by
      rw [Extent.bytes, List.getD_eq_getElem?_getD, there, Option.getD_some, ← List.length_drop,
        ← List.take_eq_take_min]
    rw [extentsFrom, List.flatMap_cons, first, take_drop_flatten_cons data rest (inside data there)]
    split
    · next fits => rw [Nat.sub_eq_zero_of_le fits, List.take_zero, List.flatMap_nil]
    · rw [ih ahead' fun _ _ => Nat.zero_le _, List.drop_zero]

/-- No file from `file` on that ends before `stop` holds more than was measured. -/
def SettledFrom (lengths : List Nat) (contents : List Bytes) (file stop : Nat) : Prop :=
  ∀ k length data, file ≤ k → lengths[k]? = some length → contents[k]? = some data →
    (lengths.take (k + 1)).sum < stop → data.length = length

/-- No file whose end lies between `start` and `stop` holds more than was
measured. -/
def Settled (lengths : List Nat) (contents : List Bytes) (start stop : Nat) : Prop :=
  ∀ k length data, lengths[k]? = some length → contents[k]? = some data →
    start < (lengths.take (k + 1)).sum → (lengths.take (k + 1)).sum < stop → data.length = length

/-- The files that end behind a byte are those from its own on. -/
theorem Placed.settled_iff {lengths : List Nat} {contents : List Bytes} {start file inner : Nat}
    (placed : Placed lengths start file inner) (within : start < lengths.sum) (stop : Nat) :
    Settled lengths contents start stop ↔ SettledFrom lengths contents file stop := by
  have there := List.getElem?_eq_getElem placed.file_lt
  have behind := placed.inner_lt there within
  have own := sum_take_succ there
  have start_eq := placed.offset_eq
  constructor
  · intro settled k length data from_file measured held ends
    have later : (lengths.take (file + 1)).sum ≤ (lengths.take (k + 1)).sum :=
      List.monotone_sum_take lengths (Nat.succ_le_succ from_file)
    exact settled k length data measured held (by omega) ends
  · intro settled k length data measured held after ends
    refine settled k length data ?_ measured held ends
    by_contra passed
    have earlier : (lengths.take (k + 1)).sum ≤ (lengths.take file).sum :=
      List.monotone_sum_take lengths (Nat.lt_of_not_le passed)
    omega

theorem settledFrom_of_le {lengths : List Nat} {file stop : Nat}
    (le : stop ≤ (lengths.take file).sum) (contents : List Bytes) :
    SettledFrom lengths contents file stop := by
  intro k length data from_file _ _ before
  have later : (lengths.take file).sum ≤ (lengths.take (k + 1)).sum :=
    List.monotone_sum_take lengths (Nat.le_succ_of_le from_file)
  omega

theorem settledFrom_iff {lengths : List Nat} {contents : List Bytes} {file length : Nat}
    {data : Bytes} (measured : lengths[file]? = some length) (held : contents[file]? = some data)
    (stop : Nat) :
    SettledFrom lengths contents file stop ↔
      ((lengths.take (file + 1)).sum < stop → data.length = length) ∧
        SettledFrom lengths contents (file + 1) stop := by
  constructor
  · intro settled
    refine ⟨settled file length data (Nat.le_refl file) measured held, ?_⟩
    intro k length' data' past
    exact settled k length' data' (Nat.le_of_succ_le past)
  · rintro ⟨first, settled⟩ k length' data' from_file measured_k held_k before
    rcases Nat.eq_or_lt_of_le from_file with rfl | past
    · rw [measured, Option.some.injEq] at measured_k
      rw [held, Option.some.injEq] at held_k
      subst measured_k held_k
      exact first before
    · exact settled k length' data' past measured_k held_k before

/-- **What is read ends within the measured lengths** just if no file that grew
ends inside of the stretch. Up to the first one that did, the files stand where
they were measured to stand. -/
theorem extents_within_iff {lengths measured : List Nat} {contents rest : List Bytes}
    {file offset want : Nat} (covers : Covers measured rest) (ahead : contents.drop file = rest)
    (measured_ahead : lengths.drop file = measured)
    (inside : ∀ length, lengths[file]? = some length → offset ≤ length) :
    (∀ e ∈ extentsFrom file offset want rest, e.Within lengths) ↔
      SettledFrom lengths contents file ((lengths.take file).sum + offset + want) := by
  induction covers generalizing file offset want with
  | nil =>
    refine iff_of_true (by simp [extentsFrom]) ?_
    intro k length data from_file _ held _
    rw [List.drop_eq_nil_iff] at ahead
    have := (List.getElem?_eq_some_iff.mp held).1
    omega
  | @cons length data measured rest le _ ih =>
    obtain ⟨there, ahead'⟩ := of_drop_eq_cons ahead
    obtain ⟨length_there, measured_ahead'⟩ := of_drop_eq_cons measured_ahead
    have inside_own := inside length length_there
    have passed := sum_take_succ length_there
    have own (count : Nat) : Extent.Within lengths ⟨file, offset, count⟩ ↔
        offset + count ≤ length := by
      rw [Extent.Within, List.getD_eq_getElem?_getD, length_there, Option.getD_some]
    rw [extentsFrom, List.forall_mem_cons, own, settledFrom_iff length_there there]
    split
    · next fits =>
      rw [Nat.min_eq_left fits]
      constructor
      · rintro ⟨ends, _⟩
        exact ⟨fun before => by omega, settledFrom_of_le (by omega) contents⟩
      · rintro ⟨first, _⟩
        refine ⟨Nat.le_of_not_lt fun behind => ?_, by simp⟩
        have same := first (by omega)
        omega
    · next short =>
      rw [Nat.min_eq_right (by omega), ih ahead' measured_ahead' fun _ _ => Nat.zero_le _, passed]
      -- the rest is read from where it was measured to stand if this file did not grow
      have same_stop (same : data.length = length) :
          (lengths.take file).sum + length + 0 + (want - (data.length - offset)) =
            (lengths.take file).sum + offset + want := by omega
      constructor
      · rintro ⟨ends, settled⟩
        have same : data.length = length := by omega
        exact ⟨fun _ => same, same_stop same ▸ settled⟩
      · rintro ⟨first, settled⟩
        have same := first (by omega)
        exact ⟨by omega, same_stop same ▸ settled⟩

/-- As long as the stretches stay within the measured lengths, they are those
of the files cut to them. -/
theorem extentsFrom_cut {lengths measured : List Nat} {rest : List Bytes} {file offset want : Nat}
    (covers : Covers measured rest) (measured_ahead : lengths.drop file = measured)
    (within : ∀ e ∈ extentsFrom file offset want rest, e.Within lengths) :
    extentsFrom file offset want (cut measured rest) = extentsFrom file offset want rest := by
  induction covers generalizing file offset want with
  | nil => rfl
  | @cons length data measured rest le _ ih =>
    obtain ⟨length_there, measured_ahead'⟩ := of_drop_eq_cons measured_ahead
    rw [extentsFrom, List.forall_mem_cons, Extent.Within, List.getD_eq_getElem?_getD, length_there,
      Option.getD_some] at within
    obtain ⟨own, later⟩ := within
    rw [cut, List.zipWith_cons_cons, ← cut, extentsFrom, extentsFrom, List.length_take_of_le le]
    dsimp only at own
    split at later
    · next fits =>
      rw [if_pos fits, if_pos (by omega), Nat.min_eq_left fits, Nat.min_eq_left (by omega)]
    · next short =>
      obtain rfl : length = data.length := by omega
      rw [if_neg short, if_neg short, ih measured_ahead' later]

namespace Placed

variable {lengths : List Nat} {contents : List Bytes} {start file inner : Nat}

theorem flatMap_extents (placed : Placed lengths start file inner) (within : start < lengths.sum)
    (covers : Covers lengths contents) (want : Nat) :
    (extentsFrom file inner want (contents.drop file)).flatMap (Extent.bytes contents) =
      ((contents.drop file).flatten.drop inner).take want := by
  apply RawReel.flatMap_extents rfl
  intro data held
  obtain ⟨length, measured, le⟩ := forall₂_getElem? covers held
  exact Nat.le_trans (Nat.le_of_lt (placed.inner_lt measured within)) le

theorem extents_within_iff (placed : Placed lengths start file inner)
    (within : start < lengths.sum) (covers : Covers lengths contents) (want : Nat) :
    (∀ e ∈ extentsFrom file inner want (contents.drop file), e.Within lengths) ↔
      Settled lengths contents start (start + want) := by
  rw [RawReel.extents_within_iff (List.forall₂_drop file covers) rfl rfl, placed.offset_eq,
    placed.settled_iff within]
  intro length measured
  exact Nat.le_of_lt (placed.inner_lt measured within)

/-- What is read within the measured lengths is what stands in the files cut to
them, joined. -/
theorem splice_cut (placed : Placed lengths start file inner) (within : start < lengths.sum)
    (covers : Covers lengths contents) {want : Nat}
    (stays : ∀ e ∈ extentsFrom file inner want (contents.drop file), e.Within lengths) :
    ((contents.drop file).flatten.drop inner).take want =
      ((cut lengths contents).flatten.drop start).take want := by
  have measured := lengths_cut covers
  have covers_cut := covers_self (cut lengths contents)
  rw [measured] at covers_cut
  have placed_cut : Placed ((cut lengths contents).map List.length) start file inner := by
    rwa [measured]
  have same : extentsFrom file inner want ((cut lengths contents).drop file) =
      extentsFrom file inner want (contents.drop file) := by
    rw [cut, List.drop_zipWith, ← cut]
    exact extentsFrom_cut (List.forall₂_drop file covers) rfl stays
  calc ((contents.drop file).flatten.drop inner).take want
      = (extentsFrom file inner want (contents.drop file)).flatMap (Extent.bytes contents) :=
        (placed.flatMap_extents within covers want).symm
    _ = (extentsFrom file inner want (contents.drop file)).flatMap
          (Extent.bytes (cut lengths contents)) :=
        List.flatMap_congr fun e read => ((stays e read).bytes_cut contents).symm
    _ = (((cut lengths contents).drop file).flatten.drop inner).take want := by
        rw [← same, placed.flatMap_extents within covers_cut]
    _ = ((cut lengths contents).flatten.drop start).take want := by
        rw [placed_cut.drop_flatten]

end Placed

namespace Reader

section
variable {σ η : Type} [ByteStream σ] [BlockHandler η]

/-- A call, or growth of the files between two calls: the streams become others
that were measured as before, and hold what was there, and maybe more. -/
inductive GrowthStep : Reader σ η → List Bytes → Reader σ η → List Bytes → Prop
  | call (r : Reader σ η) (now : List Bytes) (operation : Operation η) :
      GrowthStep r now (r.after operation) now
  | grow (r : Reader σ η) {now later : List Bytes} {files grown : FileSet σ}
      (there : r.files = some files) (measured : grown.lengths = files.lengths)
      (holds : grown.Holds later) (longer : List.Forall₂ (· <+: ·) now later) :
      GrowthStep r now { r with files := some grown } later

/-- What a reader and its files can become, once it was opened on files that
held `contents`. -/
inductive GrowthRun (opened : Reader σ η) (contents : List Bytes) :
    Reader σ η → List Bytes → Prop
  | opened : GrowthRun opened contents opened contents
  | step {r s : Reader σ η} {now next : List Bytes} :
      GrowthRun opened contents r now → GrowthStep r now s next →
      GrowthRun opened contents s next

/-- A reader laid out on measured lengths, over files that hold at least as much. -/
structure Grown (lengths : List Nat) (r : Reader σ η) (now : List Bytes) : Prop where
  laid : r.Laid lengths
  covers : Covers lengths now
  files : ∀ files ∈ r.files, files.lengths = lengths ∧ files.Holds now

theorem step_grown {lengths : List Nat} {r s : Reader σ η} {now next : List Bytes}
    (step : GrowthStep r now s next) (grown : Grown lengths r now) : Grown lengths s next := by
  cases step with
  | call operation =>
    have keeps := after_keeps r operation
    refine ⟨grown.laid.keeps keeps, grown.covers, fun files there => ?_⟩
    obtain ⟨earlier, earlier_there, accessed⟩ := keeps.files files there
    obtain ⟨measured, holds⟩ := grown.files earlier earlier_there
    exact ⟨accessed.lengths_eq.trans measured, accessed.holds holds⟩
  | @grow _ files after there measured holds longer =>
    refine ⟨grown.laid.withFiles _, grown.covers.longer longer, fun other there' => ?_⟩
    cases there'
    exact ⟨measured.trans (grown.files files there).1, holds⟩

/-- **Files that grow cover the measured lengths**, whatever is called meanwhile. -/
theorem run_grown {lengths : List Nat} {opened r : Reader σ η} {contents now : List Bytes}
    (run : GrowthRun opened contents r now) (start : Grown lengths opened contents) :
    Grown lengths r now := by
  induction run with
  | opened => exact start
  | step _ step ih => exact step_grown step ih

theorem openWith_grown {failLevel : Level} {files : FileSet σ} {handler : η}
    {opened : Reader σ η} {contents : List Bytes} (holds : files.Holds contents)
    (covers : Covers files.lengths contents)
    (ok : (openWith failLevel files handler).result = .ok opened) :
    Grown files.lengths opened contents := by
  obtain ⟨laid, now, now_eq, accessed⟩ := openWith_laid ok
  refine ⟨laid, covers, fun other there => ?_⟩
  rw [now_eq, Option.mem_def, Option.some.injEq] at there
  subst there
  exact ⟨accessed.lengths_eq, accessed.holds holds⟩

/-- **Frames of files that grew.** If files hold more than was measured, or come
to hold more while they are read, a frame is still always read; it is put
together from the stretches that were read. It is the frame of the measured
layout, and nothing of it stands behind a measured length, just if no file that
ends inside of it holds more than was measured. -/
theorem grown_frames {files : FileSet σ} {failLevel : Level} {handler : η}
    {opened r : Reader σ η} {contents now : List Bytes} {index : Nat}
    (holds : files.Holds contents) (covers : Covers files.lengths contents)
    (ok : (openWith failLevel files handler).result = .ok opened)
    (run : GrowthRun opened contents r now) (ready : r.isReady = true)
    (indexed : index < r.blockCount) :
    let extents := Log.extents (r.readFrame index).log
    ∃ frame, (r.readFrame index).result = .ok frame ∧
      frame = extents.flatMap (Extent.bytes now) ∧
      ((frame = ((cut files.lengths now).flatten.drop (index * r.frameSize)).take r.frameSize ∧
          ∀ e ∈ extents, e.Within files.lengths) ↔
        Settled files.lengths now (index * r.frameSize) ((index + 1) * r.frameSize)) := by
  obtain ⟨laid, covers, there⟩ := run_grown run (openWith_grown holds covers ok)
  obtain ⟨current, current_eq⟩ := Option.isSome_iff_exists.mp ready
  obtain ⟨measured, holds⟩ := there current current_eq
  obtain ⟨file, inner, placed, read, extents_eq⟩ :=
    readFrame_covered laid current_eq measured holds covers indexed
  have before_footer := laid.frame_before_footer indexed
  rw [Nat.succ_mul] at before_footer
  have positive := laid.frameSize_pos
  have in_files : index * r.frameSize < files.lengths.sum := by omega
  have within_iff := placed.extents_within_iff in_files covers r.frameSize
  rw [← Nat.succ_mul] at within_iff
  rw [extents_eq]
  refine ⟨_, read, (placed.flatMap_extents in_files covers r.frameSize).symm, ?_⟩
  rw [← within_iff]
  exact ⟨fun both => both.2, fun within => ⟨placed.splice_cut in_files covers within, within⟩⟩

end

/-- Two frames of three bytes in two files. The first file held four bytes when
it was measured. -/
def twoFiles (first : Bytes) : FileSet MemoryStream :=
  ⟨[⟨.ofBytes first, 4⟩, ⟨.ofBytes ([4, 5] ++ Footer.plain 3 2), 194⟩]⟩

theorem twoFiles_holds (first : Bytes) :
    (twoFiles first).Holds [first, [4, 5] ++ Footer.plain 3 2] :=
  .cons ⟨0, MemoryStream.standsAt_ofBytes _⟩ (.cons ⟨0, MemoryStream.standsAt_ofBytes _⟩ .nil)

set_option maxRecDepth 20000 in
theorem twoFiles_opens :
    ∃ opened, (openWith .error (twoFiles [0, 1, 2, 3]) NullHandler.mk).result = .ok opened ∧
      opened.frameSize = 3 ∧ opened.blockCount = 2 := by
  have evaluated : (openWith .error (twoFiles [0, 1, 2, 3]) NullHandler.mk).result.toOption.map
      (fun opened => (opened.frameSize, opened.blockCount)) = some (3, 2) := by cbv
  obtain ⟨opened, ok, evaluated⟩ := exists_ok_of_map evaluated
  obtain ⟨frameSize, blockCount⟩ := Prod.mk.inj evaluated
  exact ⟨opened, ok, frameSize, blockCount⟩

/-- The first file grows after the recording was opened; the first frame ends
before the end of that file. -/
theorem grown_frames_two_files :
    ∃ opened, (openWith .error (twoFiles [0, 1, 2, 3]) NullHandler.mk).result = .ok opened ∧
      (readFrame { opened with files := some (twoFiles [0, 1, 2, 3, 0xAA, 0xBB]) } 0).result =
        .ok [0, 1, 2] := by
  obtain ⟨opened, ok, frameSize, blockCount⟩ := twoFiles_opens
  obtain ⟨_, files, there, accessed⟩ := openWith_laid ok
  have grow : GrowthStep opened [[0, 1, 2, 3], [4, 5] ++ Footer.plain 3 2]
      { opened with files := some (twoFiles [0, 1, 2, 3, 0xAA, 0xBB]) }
      [[0, 1, 2, 3, 0xAA, 0xBB], [4, 5] ++ Footer.plain 3 2] :=
    .grow opened there accessed.lengths_eq.symm (twoFiles_holds _)
      (.cons ⟨[0xAA, 0xBB], rfl⟩ (.cons (List.prefix_refl _) .nil))
  have covers : Covers (twoFiles [0, 1, 2, 3]).lengths
      [[0, 1, 2, 3], [4, 5] ++ Footer.plain 3 2] := by
    refine .cons (Nat.le_refl 4) (.cons ?_ .nil)
    rw [List.length_append, Footer.length_plain]
    decide
  obtain ⟨frame, read, _, exact_iff⟩ := grown_frames (twoFiles_holds _) covers ok
    (.step .opened grow) rfl (blockCount.symm ▸ Nat.zero_lt_two)
  refine ⟨opened, ok, ?_⟩
  rw [read]
  have size_eq :
      Reader.frameSize { opened with files := some (twoFiles [0, 1, 2, 3, 0xAA, 0xBB]) } = 3 :=
    frameSize
  rw [size_eq] at exact_iff
  have settled : Settled (twoFiles [0, 1, 2, 3]).lengths
      [[0, 1, 2, 3, 0xAA, 0xBB], [4, 5] ++ Footer.plain 3 2] (0 * 3) ((0 + 1) * 3) := by
    rintro (_ | _ | k) length data measured _ _ before
    · exact absurd before (by decide)
    · exact absurd before (by decide)
    · cases measured
  rw [(exact_iff.mpr settled).1]
  rfl

set_option maxRecDepth 20000 in
/-- The second frame of two files of which the first one grew before the
recording was opened: what grew stands in it, and it is not that of the layout. -/
theorem grown_file_shows :
    (∃ opened, (openWith .error (twoFiles [0, 1, 2, 3, 0xAA, 0xBB]) NullHandler.mk).result =
      .ok opened ∧ opened.frameSize = 3 ∧ opened.blockCount = 2 ∧
      (opened.readFrame 1).result = .ok [3, 0xAA, 0xBB]) ∧
    ((cut (twoFiles [0, 1, 2, 3, 0xAA, 0xBB]).lengths
      [[0, 1, 2, 3, 0xAA, 0xBB], [4, 5] ++ Footer.plain 3 2]).flatten.drop (1 * 3)).take 3 =
      [3, 4, 5] := by
  have evaluated : (openWith .error (twoFiles [0, 1, 2, 3, 0xAA, 0xBB])
      NullHandler.mk).result.toOption.map (fun opened =>
        (opened.frameSize, opened.blockCount, (opened.readFrame 1).result.toOption.map fun frame => frame)) =
      some (3, 2, some [3, 0xAA, 0xBB]) := by cbv
  obtain ⟨opened, ok, evaluated⟩ := exists_ok_of_map evaluated
  obtain ⟨frameSize, evaluated⟩ := Prod.mk.inj evaluated
  obtain ⟨blockCount, evaluated⟩ := Prod.mk.inj evaluated
  obtain ⟨frame, read, frame_eq⟩ := exists_ok_of_map evaluated
  exact ⟨⟨opened, ok, frameSize, blockCount, frame_eq ▸ read⟩, by decide⟩

end Reader

end RawReel
