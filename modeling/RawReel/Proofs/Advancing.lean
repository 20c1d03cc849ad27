import Mathlib
import RawReel.Proofs.BlockStream

/-!
# The cursor counts what was accepted

Reading the block at the cursor can fail, and so can the handler that is given
it; a user may then try again. Main statements:

* `readNext_next`: all that a call on an open reader can come to;
* `readOn_counted`: however often it is tried, the cursor moves on by the frames
  that were accepted;
* `cursor_counts_accepted`: no frame is skipped, and none is accepted twice.
-/

namespace RawReel

/-- A handler, and the blocks that it was given, each with the answer it gave. -/
structure Audited (η : Type) where
  inner : η
  answers : List (Block × Except Failure Unit)

namespace Audited

variable {η : Type}

/-- The blocks that the handler accepted, in order. -/
def accepted (audited : Audited η) : List Block :=
  audited.answers.filterMap fun (block, answer) => answer.toOption.map fun _ => block

variable [BlockHandler η]

instance : BlockHandler (Audited η) where
  handle audited block :=
    let handled := BlockHandler.handle audited.inner block
    ⟨⟨handled.handler, audited.answers ++ [(block, handled.outcome)]⟩, handled.outcome,
      handled.log⟩

/-- An audit does not change what a handler does. -/
theorem mimics : Mimics (inner : Audited η → η) := fun _ _ => rfl

theorem answers_handle (audited : Audited η) (block : Block) :
    (BlockHandler.handle audited block).handler.answers =
      audited.answers ++ [(block, (BlockHandler.handle audited block).outcome)] := rfl

theorem accepted_handle_ok {audited : Audited η} {block : Block}
    (accepts : (BlockHandler.handle audited block).outcome = .ok ()) :
    (BlockHandler.handle audited block).handler.accepted = audited.accepted ++ [block] := by
  rw [accepted, answers_handle, List.filterMap_append, accepts]
  rfl

theorem accepted_handle_error {audited : Audited η} {block : Block} {failure : Failure}
    (rejects : (BlockHandler.handle audited block).outcome = .error failure) :
    (BlockHandler.handle audited block).handler.accepted = audited.accepted := by
  rw [accepted, answers_handle, List.filterMap_append, rejects]
  exact List.append_nil _

end Audited

namespace Reader

section
variable {σ η : Type}

/-- The reader whose handler is audited from now on. -/
def audited (r : Reader σ η) : Reader σ (Audited η) := { r with handler := ⟨r.handler, []⟩ }

/-- The reader whose handler is no longer audited. -/
def unaudited (r : Reader σ (Audited η)) : Reader σ η := r.mapHandler Audited.inner

variable [ByteStream σ]

theorem audited_readFrame (r : Reader σ η) (index : Nat) :
    (r.audited.readFrame index).result = (r.readFrame index).result :=
  congrArg Step.result (mapHandler_readFrame Audited.inner r.audited index)

theorem readFrame_cursor (r : Reader σ η) (index : Nat) :
    (r.readFrame index).reader.cursor = r.cursor := by
  unfold readFrame
  split
  · rfl
  · split <;> rfl

variable [BlockHandler η]

/-- What reading the block at the cursor can come to. -/
inductive Next (r : Reader σ η) (step : Step σ η Bool) : Prop
  | past (none_left : r.blockCount ≤ r.cursor) (unchanged : step = ⟨r, .ok false, []⟩)
  | unread {e : ReadError} (left : r.cursor < r.blockCount)
      (failed : (r.readFrame r.cursor).result = .error e) (result : step.result = .error e)
      (unasked : step.reader = (r.readFrame r.cursor).reader)
  | rejected {frame : Bytes} {block : Block} {failure : Failure} (left : r.cursor < r.blockCount)
      (read : (r.readFrame r.cursor).result = .ok frame) (shows : FrameBlock r r.cursor frame block)
      (rejects : (BlockHandler.handle r.handler block).outcome = .error failure)
      (result : step.result = .error (.handler failure))
      (asked : step.reader = { (r.readFrame r.cursor).reader with
        handler := (BlockHandler.handle r.handler block).handler })
  | accepted {frame : Bytes} {block : Block} (left : r.cursor < r.blockCount)
      (read : (r.readFrame r.cursor).result = .ok frame) (shows : FrameBlock r r.cursor frame block)
      (accepts : (BlockHandler.handle r.handler block).outcome = .ok ())
      (result : step.result = .ok true)
      (moves : step.reader = { (r.readFrame r.cursor).reader with
        handler := (BlockHandler.handle r.handler block).handler, cursor := r.cursor + 1 })

theorem readNext_past {r : Reader σ η} (ready : r.isReady = true)
    (none_left : r.blockCount ≤ r.cursor) : r.readNext = ⟨r, .ok false, []⟩ := by
  rw [readNext, if_neg (not_not.mpr ready), if_pos none_left]

theorem readNext_left {r : Reader σ η} (ready : r.isReady = true)
    (left : r.cursor < r.blockCount) :
    r.readNext = (r.readBlock r.cursor).andThen fun _ read =>
      ⟨read.setCursor (read.cursor + 1), .ok true, []⟩ := by
  rw [readNext, if_neg (not_not.mpr ready), if_neg (Nat.not_le.mpr left)]

/-- **What a call on an open reader can come to.** The cursor moves on only after
both the read and the handler succeeded. -/
theorem readNext_next {r : Reader σ η} (ready : r.isReady = true) : Next r r.readNext := by
  rcases Nat.lt_or_ge r.cursor r.blockCount with left | none_left
  · rw [readNext_left ready left]
    cases result : (r.readFrame r.cursor).result with
    | error e =>
      rw [readBlock_unread result]
      exact .unread left result rfl rfl
    | ok frame =>
      obtain ⟨block, shows, read⟩ := readBlock_read result
      cases answer : (BlockHandler.handle r.handler block).outcome with
      | error failure =>
        simp only [read, Step.andThen, answer, Except.mapError]
        exact .rejected left result shows answer rfl rfl
      | ok _ =>
        simp only [read, Step.andThen, answer, Except.mapError]
        refine .accepted left result shows answer rfl ?_
        rw [setCursor, readFrame_cursor]
  · exact .past none_left (readNext_past ready none_left)

/-- A frame that is read and accepted moves the cursor on. -/
theorem readNext_of_accepts {r : Reader σ η} (ready : r.isReady = true)
    (left : r.cursor < r.blockCount) {frame : Bytes}
    (read : (r.readFrame r.cursor).result = .ok frame)
    (accepts : ∀ block, FrameBlock r r.cursor frame block →
      (BlockHandler.handle r.handler block).outcome = .ok ()) :
    ∃ block, FrameBlock r r.cursor frame block ∧ r.readNext.result = .ok true ∧
      r.readNext.reader = { (r.readFrame r.cursor).reader with
        handler := (BlockHandler.handle r.handler block).handler, cursor := r.cursor + 1 } := by
  cases readNext_next ready with
  | past none_left => exact absurd left (Nat.not_lt.mpr none_left)
  | unread _ failed => cases failed.symm.trans read
  | rejected _ read' shows rejects =>
    cases read'.symm.trans read
    cases rejects.symm.trans (accepts _ shows)
  | @accepted _ block _ read' shows _ result moves =>
    cases read'.symm.trans read
    exact ⟨block, shows, result, moves⟩

/-- What the handler answers while the block at the cursor is read. -/
def answersToNext (r : Reader σ η) : List (Block × Except Failure Unit) :=
  r.audited.readNext.reader.handler.answers

theorem audited_readNext (r : Reader σ η) :
    r.audited.readNext.mapHandler Audited.inner = r.readNext :=
  mapHandler_readNext Audited.mimics r.audited

/-- The cursor moves on just if the frame is read and the handler accepts it. -/
theorem readNext_true_iff {r : Reader σ η} (ready : r.isReady = true) :
    r.readNext.result = .ok true ∧ r.readNext.reader.cursor = r.cursor + 1 ↔
      ∃ frame block, (r.readFrame r.cursor).result = .ok frame ∧
        FrameBlock r r.cursor frame block ∧ r.answersToNext = [(block, .ok ())] := by
  have next : Next r.audited r.audited.readNext := readNext_next ready
  rw [← audited_readNext, answersToNext, ← audited_readFrame]
  constructor
  · rintro ⟨moves_on, _⟩
    cases next with
    | past _ unchanged => rw [unchanged] at moves_on; cases moves_on
    | unread _ _ result | rejected _ _ _ _ result => cases result.symm.trans moves_on
    | @accepted frame block _ read shows accepts _ moves =>
      refine ⟨frame, block, read, shows.of_same rfl rfl, ?_⟩
      rw [moves, Audited.answers_handle, accepts]
      rfl
  · rintro ⟨_, block, _, _, answers⟩
    cases next with
    | past _ unchanged => rw [unchanged] at answers; cases answers
    | unread _ _ _ unasked => rw [unasked, readFrame_handler] at answers; cases answers
    | rejected _ _ _ rejects _ asked =>
      rw [asked, Audited.answers_handle, rejects] at answers
      cases answers
    | accepted _ _ _ _ result moves => exact ⟨result, congrArg cursor moves⟩

theorem readNext_false_iff {r : Reader σ η} (ready : r.isReady = true) :
    r.readNext.result = .ok false ↔ r.blockCount ≤ r.cursor := by
  constructor
  · intro ended
    cases readNext_next ready with
    | past none_left => exact none_left
    | unread _ _ result | rejected _ _ _ _ result | accepted _ _ _ _ result =>
      cases result.symm.trans ended
  · intro none_left
    rw [readNext_past ready none_left]

theorem cursor_of_error {r : Reader σ η} (ready : r.isReady = true) {e : ReadError}
    (failed : r.readNext.result = .error e) : r.readNext.reader.cursor = r.cursor := by
  cases readNext_next ready with
  | past _ unchanged => rw [unchanged]
  | unread _ _ _ unasked => rw [unasked, readFrame_cursor]
  | rejected _ _ _ _ _ asked => rw [asked, readFrame_cursor]
  | accepted _ _ _ _ result => cases result.symm.trans failed

/-- The reader after its cursor was moved, and the block at the cursor was then
read `calls` times, whatever came of it. -/
def readOn (r : Reader σ η) (start calls : Nat) : Reader σ η :=
  r.run (.setCursor start :: List.replicate calls .readNext)

theorem readOn_succ (r : Reader σ η) (start calls : Nat) :
    r.readOn start (calls + 1) = (r.readOn start calls).readNext.reader := by
  rw [readOn, List.replicate_succ', ← List.cons_append, run_append]
  rfl

theorem readOn_keeps (r : Reader σ η) (start calls : Nat) : r.Keeps (r.readOn start calls) :=
  run_keeps r _

theorem isReady_readOn (r : Reader σ η) (start calls : Nat) :
    (r.readOn start calls).isReady = r.isReady := by
  apply isReady_run
  intro closes
  rw [List.mem_cons, List.mem_replicate] at closes
  obtain closes | ⟨_, closes⟩ := closes <;> cases closes

/-- **An audit does not change what is read.** -/
theorem unaudited_readOn (r : Reader σ η) (start calls : Nat) :
    (r.audited.readOn start calls).unaudited = r.readOn start calls := by
  induction calls with
  | zero => rfl
  | succ calls ih =>
    rw [readOn_succ, readOn_succ, ← ih]
    exact congrArg Step.reader (mapHandler_readNext Audited.mimics _)

/-- One of the calls read the frame, and the handler accepted its block. -/
def AcceptedAt (r : Reader σ η) (start calls index : Nat) (block : Block) : Prop :=
  ∃ call < calls, ∃ frame, (r.readOn start call).cursor = index ∧
    ((r.readOn start call).readFrame index).result = .ok frame ∧ FrameBlock r index frame block ∧
    (BlockHandler.handle (r.readOn start call).handler block).outcome = .ok ()

theorem AcceptedAt.succ {r : Reader σ η} {start calls index : Nat} {block : Block}
    (h : r.AcceptedAt start calls index block) : r.AcceptedAt start (calls + 1) index block := by
  obtain ⟨call, lt, accepted⟩ := h
  exact ⟨call, Nat.lt_succ_of_lt lt, accepted⟩

/-- The cursor stands behind the frames that were accepted, and these are the
frames from the start on. -/
structure Counted (r : Reader σ η) (start calls : Nat) (last : Reader σ (Audited η)) : Prop where
  start_le : start ≤ last.cursor
  le_count : last.cursor ≤ r.blockCount
  accepted : List.Forall₂ (r.AcceptedAt start calls) (List.range' start (last.cursor - start))
    last.handler.accepted

/-- A call that neither moves the cursor nor has a block accepted changes nothing. -/
theorem Counted.idle {r : Reader σ η} {start calls : Nat} {last next : Reader σ (Audited η)}
    (counted : Counted r start calls last) (stays : next.cursor = last.cursor)
    (accepted_eq : next.handler.accepted = last.handler.accepted) :
    Counted r start (calls + 1) next where
  start_le := stays ▸ counted.start_le
  le_count := stays ▸ counted.le_count
  accepted := by
    rw [stays, accepted_eq]
    exact counted.accepted.imp fun _ _ earlier => earlier.succ

/-- **Frames are accepted one after the other**, however often it is tried. -/
theorem readOn_counted {r : Reader σ η} (ready : r.isReady = true) {start : Nat}
    (within : start ≤ r.blockCount) (calls : Nat) :
    Counted r start calls (r.audited.readOn start calls) := by
  induction calls with
  | zero =>
    refine ⟨Nat.le_refl start, within, ?_⟩
    have nothing : (r.audited.readOn start 0).cursor - start = 0 := Nat.sub_self start
    rw [nothing]
    exact .nil
  | succ calls ih =>
    have same := unaudited_readOn r start calls
    have keeps := readOn_keeps r.audited start calls
    have still_ready := (isReady_readOn r.audited start calls).trans ready
    rw [readOn_succ]
    generalize r.audited.readOn start calls = last at ih same keeps still_ready ⊢
    have count_eq : last.blockCount = r.blockCount := keeps.blockCount_eq
    cases readNext_next still_ready with
    | past _ unchanged => exact ih.idle (by rw [unchanged]) (by rw [unchanged])
    | unread _ _ _ unasked =>
      exact ih.idle (by rw [unasked, readFrame_cursor]) (by rw [unasked, readFrame_handler])
    | rejected _ _ _ rejects _ asked =>
      exact ih.idle (by rw [asked, readFrame_cursor])
        (by rw [asked, Audited.accepted_handle_error rejects])
    | @accepted frame block left read shows accepts _ moves =>
      have more : last.cursor + 1 - start = last.cursor - start + 1 := Nat.succ_sub ih.start_le
      have place : start + (last.cursor - start) = last.cursor := Nat.add_sub_of_le ih.start_le
      refine ⟨?_, ?_, ?_⟩
      · rw [moves]
        exact Nat.le_succ_of_le ih.start_le
      · rw [moves, ← count_eq]
        exact left
      · rw [moves, Audited.accepted_handle_ok accepts, more, List.range'_1_concat, place]
        refine List.rel_append (ih.accepted.imp fun _ _ earlier => earlier.succ) (.cons ?_ .nil)
        refine ⟨calls, Nat.lt_succ_self calls, frame, congrArg cursor same.symm, ?_,
          shows.of_same keeps.index_eq.symm keeps.frameSize_eq.symm, ?_⟩
        · rw [← same, ← read]
          exact (congrArg Step.result (mapHandler_readFrame Audited.inner last _)).symm
        · rw [← same]
          exact accepts

/-- **The cursor counts what was accepted.** On an open reader, a call past the
last frame changes nothing and asks nobody. Any other one moves the cursor on just
if the frame is read and the handler accepts it. So the frames that the handler
accepts in a run of calls, as often as some of them may fail, are those from the
start up to the cursor, each once and in order, and the calls end after the last
frame only. -/
theorem cursor_counts_accepted (r : Reader σ η) (ready : r.isReady = true) :
    r.audited.readNext.mapHandler Audited.inner = r.readNext ∧
    (r.readNext.result = .ok false ↔ r.blockCount ≤ r.cursor) ∧
    (r.blockCount ≤ r.cursor → r.readNext = ⟨r, .ok false, []⟩ ∧ r.answersToNext = []) ∧
    (r.readNext.result = .ok true ∧ r.readNext.reader.cursor = r.cursor + 1 ↔
      ∃ frame block, (r.readFrame r.cursor).result = .ok frame ∧
        FrameBlock r r.cursor frame block ∧ r.answersToNext = [(block, .ok ())]) ∧
    (∀ e, r.readNext.result = .error e → r.readNext.reader.cursor = r.cursor) ∧
    ∀ start calls, start ≤ r.blockCount →
      let last := r.audited.readOn start calls
      last.unaudited = r.readOn start calls ∧
      start ≤ last.cursor ∧ last.cursor ≤ r.blockCount ∧
      List.Forall₂ (r.AcceptedAt start calls) (List.range' start (last.cursor - start))
        last.handler.accepted ∧
      ((r.readOn start calls).readNext.result = .ok false ↔ last.cursor = r.blockCount) := by
  refine ⟨audited_readNext r, readNext_false_iff ready,
    fun none_left => ⟨readNext_past ready none_left, ?_⟩, readNext_true_iff ready,
    fun e failed => cursor_of_error ready failed, ?_⟩
  · rw [answersToNext, readNext_past (r := r.audited) ready none_left]
    rfl
  · intro start calls within
    have same := unaudited_readOn r start calls
    have counted := readOn_counted ready within calls
    have count_eq : (r.readOn start calls).blockCount = r.blockCount :=
      (readOn_keeps r start calls).blockCount_eq
    have cursor_eq : (r.readOn start calls).cursor = (r.audited.readOn start calls).cursor :=
      congrArg cursor same.symm
    refine ⟨same, counted.start_le, counted.le_count, counted.accepted, ?_⟩
    rw [readNext_false_iff ((isReady_readOn r start calls).trans ready), count_eq, cursor_eq]
    exact ⟨fun past => Nat.le_antisymm counted.le_count past, fun all => Nat.le_of_eq all.symm⟩

end

set_option maxRecDepth 20000 in
/-- The first frame is rejected once, and accepted when it is read again. -/
theorem twoFrames_retried :
    ∃ opened, (openWith .error twoFrames rejectsFirstFrame).result = .ok opened ∧
      opened.isReady = true ∧ opened.blockCount = 2 ∧
      opened.readNext.result = .error (.handler ⟨"not yet", []⟩) ∧
      (opened.audited.readOn 0 3).cursor = 2 ∧
      (opened.audited.readOn 0 3).handler.accepted.map Block.data = [[0, 1, 2], [3, 4, 5]] := by
  have evaluated : (openWith .error twoFrames rejectsFirstFrame).result.toOption.map
      (fun opened => (opened.isReady, opened.blockCount, opened.readNext.result,
        (opened.audited.readOn 0 3).cursor,
        (opened.audited.readOn 0 3).handler.accepted.map Block.data)) =
      some (true, 2, .error (.handler ⟨"not yet", []⟩), 2, [[0, 1, 2], [3, 4, 5]]) := by cbv
  obtain ⟨opened, ok, evaluated⟩ := exists_ok_of_map evaluated
  simp only [Prod.mk.injEq] at evaluated
  exact ⟨opened, ok, evaluated⟩

theorem cursor_counts_accepted_retried :
    ∃ opened, (openWith .error twoFrames rejectsFirstFrame).result = .ok opened ∧
      opened.isReady = true ∧ 0 ≤ opened.blockCount ∧
      opened.readNext.reader.cursor = opened.cursor ∧
      ∃ first second, first.data = [0, 1, 2] ∧ second.data = [3, 4, 5] ∧
        opened.AcceptedAt 0 3 0 first ∧ opened.AcceptedAt 0 3 1 second ∧
        (opened.readOn 0 3).readNext.result = .ok false := by
  obtain ⟨opened, ok, ready, count, rejected, cursor, data⟩ := twoFrames_retried
  have within : 0 ≤ opened.blockCount := Nat.zero_le _
  obtain ⟨_, _, _, _, stays, counted⟩ := cursor_counts_accepted opened ready
  obtain ⟨_, _, _, accepted, ended⟩ := counted 0 3 within
  have places : List.range' 0 (2 - 0) = [0, 1] := rfl
  rw [cursor, places] at accepted
  obtain ⟨first, _, first_accepted, later, all⟩ := List.forall₂_cons_left_iff.mp accepted
  obtain ⟨second, _, second_accepted, nothing, rfl⟩ := List.forall₂_cons_left_iff.mp later
  cases nothing
  simp only [all, List.map_cons, List.map_nil, List.cons.injEq, and_true] at data
  exact ⟨opened, ok, ready, within, stays _ rejected, first, second, data.1, data.2,
    first_accepted, second_accepted, ended.mpr (cursor.trans count.symm)⟩

end Reader

end RawReel
