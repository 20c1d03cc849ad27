import RawReel.Proofs.Run

/-!
# Handlers that do the same

A handler that keeps more in mind than another one, but does the same, is taken
to it by a map of their states. Main statements:

* `mapHandler_readFrame`, `mapHandler_readBlock`, `mapHandler_readNext`: a reader
  does the same with either handler;
* `mapHandler_frames_take`: so does a walk over the frames.
-/

namespace RawReel

/-- Through the map, the first handler does what the second one does. -/
def Mimics {θ η : Type} [BlockHandler θ] [BlockHandler η] (f : θ → η) : Prop :=
  ∀ (handler : θ) (block : Block),
    BlockHandler.handle (f handler) block =
      let handled := BlockHandler.handle handler block
      ⟨f handled.handler, handled.outcome, handled.log⟩

variable {σ θ η α β : Type}

/-- The reader with another handler's state. -/
def Reader.mapHandler (f : θ → η) (r : Reader σ θ) : Reader σ η :=
  { r with handler := f r.handler }

def Step.mapHandler (f : θ → η) (step : Step σ θ α) : Step σ η α :=
  ⟨step.reader.mapHandler f, step.result, step.log⟩

theorem Step.mapHandler_andThen {f : θ → η} (step : Step σ θ α)
    {next : α → Reader σ θ → Step σ θ β} {next' : α → Reader σ η → Step σ η β}
    (same : ∀ value r, (next value r).mapHandler f = next' value (r.mapHandler f)) :
    (step.andThen next).mapHandler f = (step.mapHandler f).andThen next' := by
  unfold Step.andThen
  cases step with
  | mk r result log =>
    cases result with
    | error e => rfl
    | ok value =>
      have goes_on := same value r
      simp only [Step.mapHandler] at goes_on ⊢
      rw [← goes_on]

namespace Reader

section
variable [ByteStream σ]

theorem mapHandler_readFrame (f : θ → η) (r : Reader σ θ) (index : Nat) :
    (r.readFrame index).mapHandler f = (r.mapHandler f).readFrame index := by
  obtain ⟨files, footer, fileHeader, rawInfo, blocks, buffer, handler, cursor⟩ := r
  simp only [readFrame, mapHandler]
  cases files with
  | none => rfl
  | some files => cases blocks.get? index <;> rfl

theorem mapHandler_frames_take (f : θ → η) (walk : Frames σ θ) (count : Nat) :
    (walk.take count).2.1.reader.mapHandler f =
      (Frames.take ⟨walk.reader.mapHandler f, walk.next⟩ count).2.1.reader := by
  induction count generalizing walk with
  | zero => rfl
  | succ count ih =>
    have read := mapHandler_readFrame f walk.reader walk.next
    simp only [Frames.take, Frames.advance?]
    cases indexed : walk.reader.index.get? walk.next with
    | none =>
      have indexed' : (walk.reader.mapHandler f).index.get? walk.next = none := indexed
      simp only [indexed', Option.map_none]
    | some start =>
      have indexed' : (walk.reader.mapHandler f).index.get? walk.next = some start := indexed
      simp only [indexed', Option.map_some, ih, ← read]
      rfl

variable [BlockHandler θ] [BlockHandler η] {f : θ → η}

theorem mapHandler_readBlock (mimics : Mimics f) (r : Reader σ θ) (index : Nat) :
    (r.readBlock index).mapHandler f = (r.mapHandler f).readBlock index := by
  unfold readBlock
  rw [← mapHandler_readFrame]
  apply Step.mapHandler_andThen
  intro _ read
  have indexed : (read.mapHandler f).index = read.index := rfl
  rw [indexed]
  cases read.index.get? index with
  | none => rfl
  | some start =>
    simp only [dispatchFrame, dispatch, mapHandler, mimics read.handler]
    rfl

theorem mapHandler_readNext (mimics : Mimics f) (r : Reader σ θ) :
    r.readNext.mapHandler f = (r.mapHandler f).readNext := by
  unfold readNext
  have ready : (r.mapHandler f).isReady = r.isReady := rfl
  have count : (r.mapHandler f).blockCount = r.blockCount := rfl
  have cursor : (r.mapHandler f).cursor = r.cursor := rfl
  rw [ready, count, cursor, ← mapHandler_readBlock mimics]
  split
  · rfl
  · split
    · rfl
    · exact Step.mapHandler_andThen _ fun _ _ => rfl

end

end Reader

end RawReel
