import Mathlib
import RawReel.Proofs.Advancing
import RawReel.Proofs.History
import RawReel.Proofs.Timestamps

/-!
# A walk over the frames

A walk gives one item for each frame, from the first to the last, whether or not
the frames can be read, and leaves the handler and the cursor alone.

* `Frames.proceed`: one more call of a walk, which stays where it is behind the
  last frame;
* `advance?_before`, `advance?_behind`: what such a call gives, and what it makes
  of the reader;
* `proceed_iterate`: where a walk stands after any number of calls;
* `walk_gives_every_frame`: what a walk gives, call by call and for ever.
-/

namespace RawReel

namespace Frames

variable {σ η : Type} [ByteStream σ]

/-- The walk after one more call. Behind the last frame it stays as it is. -/
def proceed (walk : Frames σ η) : Frames σ η :=
  match walk.advance? with
  | none => walk
  | some item => item.walk

/-- What one more call gives: a frame, or the error in its place, or nothing. -/
def item? (walk : Frames σ η) : Option (Except ReadError Frame) :=
  walk.advance?.map (·.frame)

end Frames

/-- Reading at an offset gives nothing to the handler. -/
theorem FileSet.undispatched_readAt {σ : Type} [ByteStream σ] (files : FileSet σ)
    (file offset want : Nat) (tag : BlockTag) (length : Nat) :
    .dispatching tag length ∉ (files.readAt file offset want).log := by
  unfold readAt
  split
  · exact List.not_mem_nil
  · split
    · exact List.not_mem_nil
    · dsimp only
      split
      · simp
      · exact List.not_mem_nil

namespace Reader

section
variable {σ η : Type} [ByteStream σ]

theorem undispatched_gather (index frameSize left : Nat) (files : FileSet σ) (file offset : Nat)
    (received : Bytes) (tag : BlockTag) (length : Nat) :
    .dispatching tag length ∉
      (gather index frameSize left files file offset received).log := by
  fun_induction gather index frameSize left files file offset received with
  | case1 | case2 | case3 | case4 => exact FileSet.undispatched_readAt _ _ _ _ _ _
  | case5 =>
    rename_i ih
    simp only [List.mem_append, List.mem_cons, reduceCtorEq, false_or, not_or]
    exact ⟨FileSet.undispatched_readAt _ _ _ _ _ _, ih⟩

/-- **Reading a frame gives nothing to the handler**: no block is dispatched. -/
theorem undispatched_readFrame (r : Reader σ η) (index : Nat) (tag : BlockTag) (length : Nat) :
    .dispatching tag length ∉ (r.readFrame index).log := by
  unfold readFrame
  split
  · exact List.not_mem_nil
  · split
    · exact List.not_mem_nil
    · exact undispatched_gather _ _ _ _ _ _ _ _ _

variable [BlockHandler η]

/-- The reader after its first `count` frames were read by number, one after the
other, whatever came of it. -/
def readFirst (r : Reader σ η) (count : Nat) : Reader σ η :=
  r.run ((List.range count).map .readFrame)

theorem readFirst_succ (r : Reader σ η) (count : Nat) :
    r.readFirst (count + 1) = ((r.readFirst count).readFrame count).reader := by
  rw [readFirst, List.range_succ, List.map_append, run_append]
  rfl

theorem readFirst_keeps (r : Reader σ η) (count : Nat) : r.Keeps (r.readFirst count) :=
  run_keeps r _

theorem handler_readFirst (r : Reader σ η) (count : Nat) :
    (r.readFirst count).handler = r.handler := by
  induction count with
  | zero => rfl
  | succ count ih => rw [readFirst_succ, readFrame_handler, ih]

theorem cursor_readFirst (r : Reader σ η) (count : Nat) :
    (r.readFirst count).cursor = r.cursor := by
  induction count with
  | zero => rfl
  | succ count ih => rw [readFirst_succ, readFrame_cursor, ih]

/-- The item of a walk in place `n`: what comes of reading frame `n` behind the
ones before it, with the number of the frame and its time in the index. -/
def itemInTurn? (r : Reader σ η) (n : Nat) : Option (Except ReadError Frame) :=
  (r.index.get? n).map fun start =>
    ((r.readFirst n).readFrame n).result.map fun data => ⟨n, start.timestampNs, data⟩

/-- A frame of the index is read, and the walk goes on behind it. -/
theorem advance?_before (r : Reader σ η) {n : Nat} (indexed : n < r.blockCount) :
    ∃ item, Frames.advance? ⟨r.readFirst n, n⟩ = some item ∧
      r.itemInTurn? n = some item.frame ∧ item.walk = ⟨r.readFirst (n + 1), n + 1⟩ ∧
      item.log = ((r.readFirst n).readFrame n).log := by
  obtain ⟨start, there⟩ := BlockIndex.exists_get? indexed
  have there_now := there
  rw [← (readFirst_keeps r n).index_eq] at there_now
  let read := (r.readFirst n).readFrame n
  refine ⟨⟨read.result.map fun data => ⟨n, start.timestampNs, data⟩, ⟨read.reader, n + 1⟩,
    read.log⟩, ?_, ?_, ?_, rfl⟩
  · rw [Frames.advance?, there_now, Option.map_some]
  · rw [itemInTurn?, there, Option.map_some]
  · rw [readFirst_succ]

/-- Behind the last frame there is nothing to come. -/
theorem advance?_behind (r : Reader σ η) {n : Nat} (past : r.blockCount ≤ n) :
    Frames.advance? ⟨r.readFirst r.blockCount, n⟩ = none := by
  have unindexed : (r.readFirst r.blockCount).index.get? n = none := by
    rw [(readFirst_keeps r _).index_eq]
    exact Array.getElem?_eq_none past
  rw [Frames.advance?, unindexed, Option.map_none]

theorem isSome_itemInTurn? (r : Reader σ η) (n : Nat) :
    (r.itemInTurn? n).isSome = true ↔ n < r.blockCount := by
  rw [itemInTurn?, Option.isSome_map, Option.isSome_iff_exists]
  exact ⟨fun ⟨_, found⟩ => BlockIndex.lt_size_of_get? found, BlockIndex.exists_get?⟩

/-- **Where a walk stands** after any number of calls: before the next frame, its
reader having read the ones before it, or behind the last one. -/
theorem proceed_iterate (r : Reader σ η) (calls : Nat) :
    Frames.proceed^[calls] r.frames =
      ⟨r.readFirst (min calls r.blockCount), min calls r.blockCount⟩ := by
  induction calls with
  | zero => rw [Nat.zero_min]; rfl
  | succ calls ih =>
    rw [Function.iterate_succ_apply', ih, Frames.proceed]
    rcases Nat.lt_or_ge calls r.blockCount with before | past
    · obtain ⟨item, given, _, goes_on, _⟩ := advance?_before r before
      rw [Nat.min_eq_left (Nat.le_of_lt before), given, Nat.min_eq_left before]
      exact goes_on
    · rw [Nat.min_eq_right past, advance?_behind r (Nat.le_refl _),
        Nat.min_eq_right (Nat.le_succ_of_le past)]

theorem item?_iterate (r : Reader σ η) (calls : Nat) :
    (Frames.proceed^[calls] r.frames).item? = r.itemInTurn? calls := by
  rw [proceed_iterate, Frames.item?]
  rcases Nat.lt_or_ge calls r.blockCount with before | past
  · obtain ⟨item, given, item_eq, _⟩ := advance?_before r before
    rw [Nat.min_eq_left (Nat.le_of_lt before), given, item_eq, Option.map_some]
  · have none_left : ¬ (r.itemInTurn? calls).isSome = true := fun left =>
      Nat.not_lt.mpr past ((isSome_itemInTurn? r calls).mp left)
    rw [Nat.min_eq_right past, advance?_behind r (Nat.le_refl _), Option.map_none]
    exact (Option.not_isSome_iff_eq_none.mp none_left).symm

/-- Taking some items of a walk is calling it as often. -/
theorem take_readFirst (r : Reader σ η) {n : Nat} (within : n ≤ r.blockCount) (count : Nat) :
    let left := min count (r.blockCount - n)
    let taken := Frames.take ⟨r.readFirst n, n⟩ count
    taken.1 = (List.range' n left).filterMap r.itemInTurn? ∧
      taken.2.1 = ⟨r.readFirst (n + left), n + left⟩ := by
  induction count generalizing n with
  | zero =>
    rw [Nat.zero_min]
    exact ⟨rfl, rfl⟩
  | succ count ih =>
    rcases Nat.lt_or_eq_of_le within with before | rfl
    · obtain ⟨item, given, item_eq, goes_on, _⟩ := advance?_before r before
      obtain ⟨later, after⟩ := ih (n := n + 1) before
      have counted : min (count + 1) (r.blockCount - n) =
          min count (r.blockCount - (n + 1)) + 1 := by omega
      rw [Frames.take, given]
      dsimp only
      rw [goes_on, later, after, counted, List.range'_succ, List.filterMap_cons, item_eq,
        Nat.add_right_comm n, Nat.add_assoc n]
      exact ⟨rfl, rfl⟩
    · rw [Frames.take, advance?_behind r (Nat.le_refl _), Nat.sub_self, Nat.min_zero]
      exact ⟨rfl, rfl⟩

/-- **A walk gives every frame in turn.** Whatever the streams do, and whether or
not the reader is open: a fresh walk gives just one item for each frame of the
index, and nothing for ever after. The item of a frame is what comes of reading
it by number at that moment, with its number and its time in the index, and the
walk goes on behind it also if that is an error. Before each call the walk tells
how many items are still to come. No call gives anything to the handler, and the
cursor stays where it is. -/
theorem walk_gives_every_frame (r : Reader σ η) :
    (∀ calls, let walk := Frames.proceed^[calls] r.frames
      walk.reader = r.readFirst (min calls r.blockCount) ∧
      walk.item? = (r.index.get? calls).map (fun start =>
        (walk.reader.readFrame calls).result.map fun data => ⟨calls, start.timestampNs, data⟩) ∧
      walk.remaining = r.blockCount - calls ∧
      (∀ later, (Frames.proceed^[later] walk).item?.isSome = true ↔ later < walk.remaining) ∧
      walk.reader.handler = r.handler ∧ walk.reader.cursor = r.cursor ∧
      ∀ item ∈ walk.advance?, ∀ tag length, .dispatching tag length ∉ item.log) ∧
    ∀ count, (r.frames.take count).1 =
        (List.range (min count r.blockCount)).filterMap
          (fun n => (Frames.proceed^[n] r.frames).item?) ∧
      (r.frames.take count).2.1 = Frames.proceed^[count] r.frames := by
  refine ⟨?_, ?_⟩
  · intro calls walk
    have walk_eq : walk = _ := proceed_iterate r calls
    have remaining_eq : walk.remaining = r.blockCount - calls := by
      have count_eq := (readFirst_keeps r (min calls r.blockCount)).blockCount_eq
      rw [walk_eq, Frames.remaining, count_eq]
      dsimp only
      omega
    refine ⟨congrArg Frames.reader walk_eq, ?_, remaining_eq, ?_, ?_, ?_, ?_⟩
    · rw [item?_iterate, itemInTurn?, walk_eq]
      rcases Nat.lt_or_ge calls r.blockCount with before | past
      · rw [Nat.min_eq_left (Nat.le_of_lt before)]
      · have unindexed : r.index.get? calls = none := Array.getElem?_eq_none past
        rw [unindexed]
        rfl
    · intro later
      rw [remaining_eq, ← Function.iterate_add_apply, item?_iterate, isSome_itemInTurn?]
      omega
    · rw [walk_eq, handler_readFirst]
    · rw [walk_eq, cursor_readFirst]
    · intro item given tag length
      obtain ⟨start, _, rfl⟩ := Option.map_eq_some_iff.mp given
      exact undispatched_readFrame _ _ _ _
  · intro count
    obtain ⟨items, after⟩ := take_readFirst r (Nat.zero_le _) count
    rw [Nat.sub_zero] at items after
    refine ⟨?_, ?_⟩
    · simp only [item?_iterate]
      rw [List.range_eq_range']
      exact items
    · rw [proceed_iterate, ← Nat.zero_add (min count r.blockCount)]
      exact after

end

set_option maxRecDepth 20000 in
theorem worn_walked :
    ∃ files opened, FileSet.ofStreams worn = .ok files ∧
      (openWith .error files rejectsFirst).result = .ok opened ∧ opened.blockCount = 4 ∧
      (opened.frames.take 9).1 = [.ok ⟨0, 0, [0, 1, 2]⟩, .error (.io MemoryStream.readFailure),
        .error (.size (.shortRead 2 1 1 3)), .ok ⟨3, 3000000000, [9, 10, 11]⟩] := by
  have evaluated : (FileSet.ofStreams worn).toOption.map (fun files =>
      (openWith .error files rejectsFirst).result.toOption.map fun opened =>
        (opened.blockCount, (opened.frames.take 9).1)) =
      some (some (4, [.ok ⟨0, 0, [0, 1, 2]⟩, .error (.io MemoryStream.readFailure),
        .error (.size (.shortRead 2 1 1 3)), .ok ⟨3, 3000000000, [9, 10, 11]⟩])) := by cbv
  obtain ⟨files, measured, evaluated⟩ := exists_ok_of_map evaluated
  obtain ⟨opened, ok, evaluated⟩ := exists_ok_of_map evaluated
  obtain ⟨count_eq, items⟩ := Prod.mk.inj evaluated
  exact ⟨files, opened, measured, ok, count_eq, items⟩

/-- The second and the third of four frames cannot be read. -/
theorem walk_gives_every_frame_worn :
    ∃ files opened, FileSet.ofStreams worn = .ok files ∧
      (openWith .error files rejectsFirst).result = .ok opened ∧
      ((List.range 4).filterMap fun n => (Frames.proceed^[n] opened.frames).item?) =
        [.ok ⟨0, 0, [0, 1, 2]⟩, .error (.io MemoryStream.readFailure),
          .error (.size (.shortRead 2 1 1 3)), .ok ⟨3, 3000000000, [9, 10, 11]⟩] ∧
      (Frames.proceed^[2] opened.frames).remaining = 2 ∧
      (∃ item, (Frames.proceed^[2] opened.frames).advance? = some item ∧
        ∀ tag length, .dispatching tag length ∉ item.log) ∧
      (Frames.proceed^[9] opened.frames).item? = none := by
  obtain ⟨files, opened, measured, ok, count_eq, taken⟩ := worn_walked
  obtain ⟨calls, takes⟩ := walk_gives_every_frame opened
  obtain ⟨items, _⟩ := takes 9
  obtain ⟨_, _, remaining, comes, _, _, silent⟩ := calls 2
  obtain ⟨_, _, behind, never, _⟩ := calls 9
  have next_comes := comes 0
  have none_comes := never 0
  rw [Function.iterate_zero_apply] at next_comes none_comes
  rw [count_eq] at items remaining behind
  rw [show min 9 4 = 4 from rfl, taken] at items
  rw [remaining, Frames.item?, Option.isSome_map] at next_comes
  rw [behind] at none_comes
  obtain ⟨item, given⟩ := Option.isSome_iff_exists.mp (next_comes.mpr (by decide))
  have nothing : ¬ (Frames.proceed^[9] opened.frames).item?.isSome = true := fun comes =>
    absurd (none_comes.mp comes) (by decide)
  exact ⟨files, opened, measured, ok, items.symm, remaining, ⟨item, given, silent item given⟩,
    Option.not_isSome_iff_eq_none.mp nothing⟩

end Reader

end RawReel
