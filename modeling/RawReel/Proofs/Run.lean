import RawReel.Proofs.Opening
import RawReel.Reader.Frames

/-!
# What a run of calls does to a reader

* `Operation`, `after`, `run`: the calls a user can make, and the reader they leave;
* `Keeps`: the recording of a reader stays what it was, and its files are only
  read, or let go of;
* `run_keeps`: every run keeps the recording, whatever the streams and the
  handler do;
* `run_files`: a reader that is still open stands on the files it was opened on.
-/

namespace RawReel

namespace Reader

/-- The calls that can change a reader. The other ones only look at it. -/
inductive Operation (η : Type)
  | readFrame (index : Nat)
  | readBlock (index : Nat)
  | readNext
  | setCursor (cursor : Nat)
  /-- Takes some items of a walk over the frames. -/
  | frames (count : Nat)
  /-- Puts another state in place of the handler's. -/
  | setHandler (change : η → η)
  | close

section
variable {σ η : Type} [ByteStream σ] [BlockHandler η]

/-- The reader after a call, whatever the call gave. -/
def after (r : Reader σ η) : Operation η → Reader σ η
  | .readFrame index => (r.readFrame index).reader
  | .readBlock index => (r.readBlock index).reader
  | .readNext => r.readNext.reader
  | .setCursor cursor => r.setCursor cursor
  | .frames count => (r.frames.take count).2.1.reader
  | .setHandler change => { r with handler := change r.handler }
  | .close => r.close.value

def run (r : Reader σ η) (operations : List (Operation η)) : Reader σ η :=
  operations.foldl after r

theorem run_append (r : Reader σ η) (first later : List (Operation η)) :
    r.run (first ++ later) = (r.run first).run later :=
  List.foldl_append

end

section
variable {σ η : Type} [ByteStream σ]

/-- The second reader has the recording of the first one, and files only if the
first one has, which were then read or rewound in between. -/
structure Keeps (before after : Reader σ η) : Prop where
  footer_eq : after.footer = before.footer
  fileHeader_eq : after.fileHeader = before.fileHeader
  rawInfo_eq : after.rawInfo = before.rawInfo
  index_eq : after.index = before.index
  frameSize_eq : after.frameSize = before.frameSize
  files : ∀ now ∈ after.files, ∃ earlier ∈ before.files, earlier.Accessed now

theorem Keeps.refl (r : Reader σ η) : r.Keeps r :=
  ⟨rfl, rfl, rfl, rfl, rfl, fun files there => ⟨files, there, .refl⟩⟩

theorem Keeps.trans {a b c : Reader σ η} (first : a.Keeps b) (second : b.Keeps c) : a.Keeps c where
  footer_eq := second.footer_eq.trans first.footer_eq
  fileHeader_eq := second.fileHeader_eq.trans first.fileHeader_eq
  rawInfo_eq := second.rawInfo_eq.trans first.rawInfo_eq
  index_eq := second.index_eq.trans first.index_eq
  frameSize_eq := second.frameSize_eq.trans first.frameSize_eq
  files := by
    intro now there
    obtain ⟨mid, mid_there, mid_now⟩ := second.files now there
    obtain ⟨earlier, earlier_there, earlier_mid⟩ := first.files mid mid_there
    exact ⟨earlier, earlier_there, earlier_mid.trans mid_now⟩

theorem Keeps.blockCount_eq {r later : Reader σ η} (keeps : r.Keeps later) :
    later.blockCount = r.blockCount := congrArg BlockIndex.size keeps.index_eq

/-- Nothing of the recording depends on the handler or on the cursor. -/
theorem Keeps.of_handler_cursor (r : Reader σ η) (handler : η) (cursor : Nat) :
    r.Keeps { r with handler, cursor } :=
  ⟨rfl, rfl, rfl, rfl, rfl, fun files there => ⟨files, there, .refl⟩⟩

theorem Laid.keeps {r later : Reader σ η} {lengths : List Nat} (laid : r.Laid lengths)
    (keeps : r.Keeps later) : later.Laid lengths where
  index_eq := by rw [keeps.index_eq, keeps.frameSize_eq, keeps.footer_eq, laid.index_eq]
  frameSize_eq := by rw [keeps.frameSize_eq, keeps.footer_eq, laid.frameSize_eq]
  frameSize_pos := keeps.frameSize_eq ▸ laid.frameSize_pos
  footer_fits := laid.footer_fits

theorem gather_accessed (index frameSize left : Nat) (files : FileSet σ) (file offset : Nat)
    (received : Bytes) :
    files.Accessed (gather index frameSize left files file offset received).files := by
  induction left generalizing files file offset received with
  | zero =>
    unfold gather
    dsimp only
    split
    · exact .read _ _ _ .refl
    · split
      · exact .read _ _ _ .refl
      · split <;> exact .read _ _ _ .refl
  | succ left ih =>
    unfold gather
    dsimp only
    split
    · exact .read _ _ _ .refl
    · split
      · exact .read _ _ _ .refl
      · split
        · exact .read _ _ _ .refl
        · exact (FileSet.Accessed.read _ _ _ .refl).trans (ih ..)

theorem readFrame_keeps (r : Reader σ η) (index : Nat) : r.Keeps (r.readFrame index).reader := by
  unfold readFrame
  split
  · exact .refl r
  · next files there =>
    split
    · exact .refl r
    · refine ⟨rfl, rfl, rfl, rfl, rfl, ?_⟩
      intro now now_there
      cases now_there
      exact ⟨files, there, gather_accessed ..⟩

theorem frames_take_keeps (walk : Frames σ η) (count : Nat) :
    walk.reader.Keeps (walk.take count).2.1.reader := by
  induction count generalizing walk with
  | zero => exact .refl _
  | succ count ih =>
    unfold Frames.take
    split
    · exact .refl _
    · next item found =>
      obtain ⟨start, _, rfl⟩ := Option.map_eq_some_iff.mp found
      exact (readFrame_keeps walk.reader walk.next).trans (ih ⟨_, walk.next + 1⟩)

variable [BlockHandler η]

theorem readBlock_keeps (r : Reader σ η) (index : Nat) : r.Keeps (r.readBlock index).reader := by
  have read := readFrame_keeps r index
  unfold readBlock Step.andThen
  split
  · exact read
  · dsimp only
    split
    · exact read
    · exact read.trans (.of_handler_cursor ..)

theorem readNext_keeps (r : Reader σ η) : r.Keeps r.readNext.reader := by
  unfold readNext
  split
  · exact .refl r
  · split
    · exact .refl r
    · have read := readBlock_keeps r r.cursor
      unfold Step.andThen
      split
      · exact read
      · exact read.trans (.of_handler_cursor ..)

theorem after_keeps (r : Reader σ η) (operation : Operation η) : r.Keeps (r.after operation) := by
  cases operation with
  | readFrame index => exact readFrame_keeps r index
  | readBlock index => exact readBlock_keeps r index
  | readNext => exact readNext_keeps r
  | setCursor cursor => exact .of_handler_cursor ..
  | frames count => exact frames_take_keeps r.frames count
  | setHandler change => exact .of_handler_cursor ..
  | close => exact ⟨rfl, rfl, rfl, rfl, rfl, fun files there => by cases there⟩

/-- **A run keeps the recording.** -/
theorem run_keeps (r : Reader σ η) (operations : List (Operation η)) :
    r.Keeps (r.run operations) := by
  induction operations generalizing r with
  | nil => exact .refl r
  | cons operation operations ih => exact (after_keeps r operation).trans (ih _)

/-- A reader that is still open stands on the files that it was opened on. -/
theorem Keeps.files_accessed {files : FileSet σ} {failLevel : Level} {handler : η}
    {opened r : Reader σ η} (keeps : opened.Keeps r)
    (ok : (openWith failLevel files handler).result = .ok opened) (ready : r.isReady = true) :
    ∃ now, r.files = some now ∧ files.Accessed now := by
  obtain ⟨now, there⟩ := Option.isSome_iff_exists.mp ready
  obtain ⟨_, start, start_eq, first⟩ := openWith_laid ok
  obtain ⟨earlier, earlier_there, later⟩ := keeps.files now there
  rw [start_eq, Option.mem_def, Option.some.injEq] at earlier_there
  exact ⟨now, there, first.trans (earlier_there ▸ later)⟩

theorem run_files {files : FileSet σ} {failLevel : Level} {handler : η} {opened : Reader σ η}
    (ok : (openWith failLevel files handler).result = .ok opened)
    (operations : List (Operation η)) (ready : (opened.run operations).isReady = true) :
    ∃ now, (opened.run operations).files = some now ∧ files.Accessed now :=
  (run_keeps opened operations).files_accessed ok ready

end

section
variable {σ η : Type} [ByteStream σ]

@[simp] theorem isReady_readFrame (r : Reader σ η) (index : Nat) :
    (r.readFrame index).reader.isReady = r.isReady := by
  unfold readFrame
  split
  · rfl
  · next files there =>
    split
    · rfl
    · simp only [isReady, there, Option.isSome_some]

theorem isReady_frames_take (walk : Frames σ η) (count : Nat) :
    (walk.take count).2.1.reader.isReady = walk.reader.isReady := by
  induction count generalizing walk with
  | zero => rfl
  | succ count ih =>
    unfold Frames.take
    split
    · rfl
    · next item found =>
      obtain ⟨start, _, rfl⟩ := Option.map_eq_some_iff.mp found
      dsimp only
      rw [ih, isReady_readFrame]

variable [BlockHandler η]

@[simp] theorem isReady_readBlock (r : Reader σ η) (index : Nat) :
    (r.readBlock index).reader.isReady = r.isReady := by
  have read := isReady_readFrame r index
  unfold readBlock Step.andThen
  split
  · exact read
  · dsimp only
    split <;> exact read

@[simp] theorem isReady_readNext (r : Reader σ η) : r.readNext.reader.isReady = r.isReady := by
  have read := isReady_readBlock r r.cursor
  unfold readNext
  split
  · rfl
  · split
    · rfl
    · unfold Step.andThen
      split <;> exact read

theorem isReady_after (r : Reader σ η) {operation : Operation η} (goes_on : operation ≠ .close) :
    (r.after operation).isReady = r.isReady := by
  cases operation with
  | readFrame index => exact isReady_readFrame r index
  | readBlock index => exact isReady_readBlock r index
  | readNext => exact isReady_readNext r
  | frames count => exact isReady_frames_take r.frames count
  | setCursor | setHandler => rfl
  | close => contradiction

/-- Only closing a reader makes it refuse reads. -/
theorem isReady_run (r : Reader σ η) {operations : List (Operation η)}
    (unclosed : .close ∉ operations) : (r.run operations).isReady = r.isReady := by
  induction operations generalizing r with
  | nil => rfl
  | cons operation operations ih =>
    rw [List.mem_cons, not_or] at unclosed
    obtain ⟨first, later⟩ := unclosed
    exact (ih (r.after operation) later).trans (isReady_after r (Ne.symm first))

end

end Reader

end RawReel
