import RawReel.Proofs.HandlerMap

/-!
# What a handler is given

A watched handler does what it did, and keeps the blocks that it is given.

* `Watched`: a handler, and the blocks that it was given so far;
* `run_unwatch`: a run of calls does the same with a handler that is watched;
* `openWith_watched`: so does opening a recording, and it gives the handler the
  file header and the raw info block;
* `given`: all blocks that a handler is given by opening a recording and by a
  run of calls.
-/

namespace RawReel

/-- A handler, and the blocks that it was given, in order. -/
structure Watched (η : Type) where
  inner : η
  seen : List Block

instance {η : Type} [BlockHandler η] : BlockHandler (Watched η) where
  handle watched block :=
    let handled := BlockHandler.handle watched.inner block
    ⟨⟨handled.handler, watched.seen ++ [block]⟩, handled.outcome, handled.log⟩

namespace Reader

/-- The call, made on a reader whose handler is watched. -/
def Operation.watched {η : Type} : Operation η → Operation (Watched η)
  | .readFrame index => .readFrame index
  | .readBlock index => .readBlock index
  | .readNext => .readNext
  | .setCursor cursor => .setCursor cursor
  | .frames count => .frames count
  | .setHandler change => .setHandler fun watched => { watched with inner := change watched.inner }
  | .close => .close

section
variable {σ η α β : Type}

/-- The reader whose handler is no longer watched. -/
def unwatch (r : Reader σ (Watched η)) : Reader σ η := { r with handler := r.handler.inner }

end

end Reader

/-- What an operation gives to a reader whose handler is no longer watched. -/
def Step.unwatch {σ η α : Type} (step : Step σ (Watched η) α) : Step σ η α :=
  ⟨step.reader.unwatch, step.result, step.log⟩

/-- Watching does not change what a handler does. -/
theorem Watched.mimics {η : Type} [BlockHandler η] : Mimics (Watched.inner : Watched η → η) :=
  fun _ _ => rfl

namespace Reader

section
variable {σ η : Type} [ByteStream σ]

theorem readFrame_unwatch (r : Reader σ (Watched η)) (index : Nat) :
    (r.readFrame index).unwatch = r.unwatch.readFrame index :=
  mapHandler_readFrame Watched.inner r index

theorem frames_take_unwatch (walk : Frames σ (Watched η)) (count : Nat) :
    (walk.take count).2.1.reader.unwatch =
      (Frames.take ⟨walk.reader.unwatch, walk.next⟩ count).2.1.reader :=
  mapHandler_frames_take Watched.inner walk count

variable [BlockHandler η]

theorem readBlock_unwatch (r : Reader σ (Watched η)) (index : Nat) :
    (r.readBlock index).unwatch = r.unwatch.readBlock index :=
  mapHandler_readBlock Watched.mimics r index

theorem readNext_unwatch (r : Reader σ (Watched η)) : r.readNext.unwatch = r.unwatch.readNext :=
  mapHandler_readNext Watched.mimics r

theorem after_unwatch (r : Reader σ (Watched η)) (operation : Operation η) :
    (r.after operation.watched).unwatch = r.unwatch.after operation := by
  cases operation with
  | readFrame index => exact congrArg Step.reader (readFrame_unwatch r index)
  | readBlock index => exact congrArg Step.reader (readBlock_unwatch r index)
  | readNext => exact congrArg Step.reader (readNext_unwatch r)
  | frames count => exact frames_take_unwatch r.frames count
  | setCursor | setHandler | close => rfl

/-- **Watching changes nothing** in a run of calls. -/
theorem run_unwatch (r : Reader σ (Watched η)) (operations : List (Operation η)) :
    (r.run (operations.map .watched)).unwatch = r.unwatch.run operations := by
  induction operations generalizing r with
  | nil => rfl
  | cons operation operations ih =>
    simp only [run, List.map_cons, List.foldl_cons] at ih ⊢
    rw [ih, after_unwatch]

end

section
variable {σ η : Type} [BlockHandler η]

theorem dispatch_watched (watched : Watched η) (header : BlockHeader) (buffer : FrameBuffer)
    (length : Nat) :
    dispatch watched header buffer length =
      let handled := dispatch watched.inner header buffer length
      ⟨⟨handled.handler, watched.seen ++ [⟨header, buffer, 0, length⟩]⟩, handled.outcome,
        handled.log⟩ := rfl

/-- The first two blocks: the headers of the recording, with nothing behind them. -/
def preamble (r : Reader σ η) : List Block :=
  [⟨.fileHeader r.fileHeader, .blank r.frameSize, 0, 0⟩,
    ⟨.rawInfo r.rawInfo, .blank r.frameSize, 0, 0⟩]

theorem introduce_watched {r : Reader σ (Watched η)} {opened : Reader σ η}
    (ok : (introduce r.unwatch).result = .ok opened) :
    ∃ watched, (introduce r).result = .ok watched ∧ watched.unwatch = opened ∧
      watched.handler.seen = r.handler.seen ++
        [⟨.fileHeader r.fileHeader, r.buffer, 0, 0⟩, ⟨.rawInfo r.rawInfo, r.buffer, 0, 0⟩] := by
  unfold introduce at ok ⊢
  simp only [dispatch_watched, unwatch] at ok ⊢
  split at ok
  · cases ok
  · dsimp only at ok ⊢
    split at ok
    · cases ok
    · cases ok
      exact ⟨_, rfl, rfl, List.append_assoc ..⟩

variable [ByteStream σ]

/-- **Watching changes nothing** when a recording is opened, and the handler is
given the two blocks without frames. -/
theorem openWith_watched {failLevel : Level} {files : FileSet σ} {handler : η}
    {opened : Reader σ η} (ok : (openWith failLevel files handler).result = .ok opened) :
    ∃ watched, (openWith failLevel files (Watched.mk handler [])).result = .ok watched ∧
      watched.unwatch = opened ∧ watched.handler.seen = opened.preamble := by
  obtain ⟨footer, warning, found, accepted, introduced⟩ := openWith_eq_ok_iff.mp ok
  let start := ofFooter (Footer.locate files).files footer (Watched.mk handler [])
  obtain ⟨watched, introduced', rfl, seen⟩ :=
    introduce_watched (r := start) introduced
  refine ⟨watched, openWith_eq_ok_iff.mpr ⟨footer, warning, found, accepted, introduced'⟩, rfl, ?_⟩
  obtain ⟨after, rfl⟩ := introduce_ok introduced'
  exact seen

/-- All blocks that a handler is given: while a recording is opened, and then by
a run of calls. -/
def given (failLevel : Level) (files : FileSet σ) (handler : η) (operations : List (Operation η)) :
    List Block :=
  let opening := openWith failLevel files (Watched.mk handler [])
  match opening.result with
  | .error _ => opening.handler.seen
  | .ok opened => (opened.run (operations.map .watched)).handler.seen

end

end Reader

end RawReel
