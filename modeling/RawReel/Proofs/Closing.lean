import Mathlib
import RawReel.Proofs.BlockStream

/-!
# A reader along a run of calls

Every run keeps what was found when the recording was opened, and closing is for
good.

* `Refusing`: reads are refused, whatever is asked for, and change nothing;
* `after_closed`, `run_closed`: calls on a closed reader move its cursor and
  change its handler only when they are told to;
* `isReady_run_iff`: a reader can be read just as long as it was not closed;
* `run_guarded`: all of this together, for every run on a reader that was opened.
-/

namespace RawReel

namespace Reader

section
variable {σ η : Type}

/-- What a call does that needs no files. -/
def adjust (r : Reader σ η) : Operation η → Reader σ η
  | .setCursor cursor => r.setCursor cursor
  | .setHandler change => { r with handler := change r.handler }
  | .readFrame _ | .readBlock _ | .readNext | .frames _ | .close => r

theorem isReady_adjust (r : Reader σ η) (operation : Operation η) :
    (r.adjust operation).isReady = r.isReady := by
  cases operation <;> rfl

variable [ByteStream σ]

/-- A frame that cannot be read is not shown. -/
theorem ShownFrame.eq_nil {r : Reader σ η} {index : Nat} {blocks : List Block} {e : ReadError}
    (shown : ShownFrame r index blocks) (failed : (r.readFrame index).result = .error e) :
    blocks = [] := by
  cases shown with
  | read ok shows =>
    rw [failed] at ok
    cases ok
  | unread _ => rfl

theorem Shown.eq_nil_of_closed {r : Reader σ η} (closed : ¬ r.isReady = true)
    {operation : Operation η} {blocks : List Block} (shown : r.Shown operation blocks) :
    blocks = [] := by
  have refused (index : Nat) : (r.readFrame index).result = .error (.bounds .notReady) :=
    congrArg Step.result (readFrame_closed closed index)
  cases operation with
  | readBlock index => exact ShownFrame.eq_nil shown (refused index)
  | readNext => exact ShownFrame.eq_nil shown (refused r.cursor)
  | readFrame | setCursor | frames | setHandler | close => exact shown

/-- What is left of the frames is that many refusals. -/
theorem frames_take_closed {r : Reader σ η} (closed : ¬ r.isReady = true) (next count : Nat) :
    Frames.take ⟨r, next⟩ count =
      (List.replicate (min count (r.blockCount - next)) (.error (.bounds .notReady)),
        ⟨r, next + min count (r.blockCount - next)⟩, []) := by
  induction count generalizing next with
  | zero => rw [Nat.zero_min]; rfl
  | succ count ih =>
    by_cases past : r.blockCount ≤ next
    · have unindexed : r.index.get? next = none := Array.getElem?_eq_none past
      rw [Nat.sub_eq_zero_of_le past, Nat.min_zero]
      simp only [Frames.take, Frames.advance?, unindexed]
      rfl
    · obtain ⟨start, indexed⟩ : ∃ start, r.index.get? next = some start :=
        ⟨_, Array.getElem?_eq_getElem (Nat.lt_of_not_le past)⟩
      have counted : min (count + 1) (r.blockCount - next) =
          min count (r.blockCount - (next + 1)) + 1 := by omega
      simp only [Frames.take, Frames.advance?, indexed, readFrame_closed closed, Option.map_some,
        ih, counted]
      rw [List.replicate_succ, Nat.add_right_comm next, Nat.add_assoc next]
      rfl

variable [BlockHandler η]

/-- Reads are refused, in range or not, and leave everything as it is. -/
structure Refusing (r : Reader σ η) : Prop where
  readFrame_eq : ∀ index, r.readFrame index = ⟨r, .error (.bounds .notReady), []⟩
  readBlock_eq : ∀ index, r.readBlock index = ⟨r, .error (.bounds .notReady), []⟩
  readNext_eq : r.readNext = ⟨r, .error (.bounds .notReady), []⟩
  frames_eq : ∀ count, r.frames.take count =
    (List.replicate (min count r.blockCount) (.error (.bounds .notReady)),
      ⟨r, min count r.blockCount⟩, [])

theorem refusing_of_closed {r : Reader σ η} (closed : ¬ r.isReady = true) : r.Refusing where
  readFrame_eq := readFrame_closed closed
  readBlock_eq := by
    intro index
    have refused := readFrame_closed closed index
    rw [readBlock_unread (congrArg Step.result refused), refused]
  readNext_eq := by rw [readNext, if_pos closed]
  frames_eq := by
    intro count
    have taken := frames_take_closed closed 0 count
    rwa [Nat.sub_zero, Nat.zero_add] at taken

theorem readBlock_outside {r : Reader σ η} (ready : r.isReady = true) {index : Nat}
    (outside : r.blockCount ≤ index) :
    r.readBlock index = ⟨r, .error (.bounds (.outOfRange index r.blockCount)), []⟩ := by
  have refused := readFrame_outside ready outside
  rw [readBlock_unread (congrArg Step.result refused), refused]

theorem after_closed {r : Reader σ η} (closed : ¬ r.isReady = true) (operation : Operation η) :
    r.after operation = r.adjust operation := by
  have refusing := refusing_of_closed closed
  cases operation with
  | readFrame index => exact congrArg Step.reader (refusing.readFrame_eq index)
  | readBlock index => exact congrArg Step.reader (refusing.readBlock_eq index)
  | readNext => exact congrArg Step.reader refusing.readNext_eq
  | frames count => exact congrArg (fun taken => taken.2.1.reader) (refusing.frames_eq count)
  | setCursor | setHandler => rfl
  | close =>
    have none_left : r.files = none := Option.not_isSome_iff_eq_none.mp closed
    change { r with files := none } = r
    rw [← none_left]

/-- Along every run, a closed reader is only adjusted. -/
theorem run_closed {r : Reader σ η} (closed : ¬ r.isReady = true)
    (operations : List (Operation η)) : r.run operations = operations.foldl adjust r := by
  induction operations generalizing r with
  | nil => rfl
  | cons operation operations ih =>
    have still : ¬ (r.adjust operation).isReady = true := by rwa [isReady_adjust]
    rw [List.foldl_cons, ← ih still, ← after_closed closed]
    rfl

theorem not_isReady_run {r : Reader σ η} (closed : ¬ r.isReady = true)
    (operations : List (Operation η)) : ¬ (r.run operations).isReady = true := by
  induction operations generalizing r with
  | nil => exact closed
  | cons operation operations ih =>
    apply ih (r := r.after operation)
    rwa [after_closed closed, isReady_adjust]

/-- **Closing is for good.** -/
theorem not_isReady_of_close_mem (r : Reader σ η) {operations : List (Operation η)}
    (closes : .close ∈ operations) : ¬ (r.run operations).isReady = true := by
  obtain ⟨first, later, rfl⟩ := List.append_of_mem closes
  rw [run_append]
  exact not_isReady_run (r := (r.run first).close.value) Bool.false_ne_true later

theorem isReady_run_iff {r : Reader σ η} (ready : r.isReady = true)
    (operations : List (Operation η)) :
    (r.run operations).isReady = true ↔ .close ∉ operations := by
  constructor
  · intro still closes
    exact not_isReady_of_close_mem r closes still
  · intro unclosed
    rw [isReady_run r unclosed, ready]

section
variable {failLevel : Level} {files : FileSet σ} {handler : η} {opened : Reader σ η}

/-- A call that shows no block leaves the handler alone. -/
theorem given_append_of_unshown
    (ok : (openWith failLevel files handler).result = .ok opened)
    (operations : List (Operation η)) (operation : Operation η)
    (unshown : ∀ blocks, (opened.run operations).Shown operation blocks → blocks = []) :
    given failLevel files handler (operations ++ [operation]) =
      given failLevel files handler operations := by
  obtain ⟨blocks, given_eq, shown⟩ := given_append ok operations operation
  rw [given_eq, unshown blocks shown, List.append_nil]

/-- The handler of a closed reader is not called again. -/
theorem given_closed (ok : (openWith failLevel files handler).result = .ok opened)
    {operations : List (Operation η)} (closes : .close ∈ operations)
    (later : List (Operation η)) :
    given failLevel files handler (operations ++ later) =
      given failLevel files handler operations := by
  induction later using List.reverseRecOn with
  | nil => rw [List.append_nil]
  | append_singleton later operation ih =>
    have closed := not_isReady_of_close_mem opened (List.mem_append_left later closes)
    rw [← List.append_assoc,
      given_append_of_unshown ok _ _ fun _ => Shown.eq_nil_of_closed closed, ih]

/-- The size of the buffer is what the footer says. -/
theorem frameSize_run (ok : (openWith failLevel files handler).result = .ok opened)
    (operations : List (Operation η)) :
    ((opened.run operations).frameSize : Int) = opened.footer.frameSize.toInt := by
  obtain ⟨laid, _⟩ := openWith_laid ok
  have positive : 0 < opened.footer.frameBytes := laid.frameSize_eq ▸ laid.frameSize_pos
  rw [(run_keeps opened operations).frameSize_eq, laid.frameSize_eq]
  unfold Footer.frameBytes at positive ⊢
  omega

/-- **What holds along every run.** The recording and the size of the buffer stay
what they were when it was opened. The reader can be read until it is closed, and
never after: every read is refused then before anything else is looked at, later
calls only adjust it, and the handler is not called again. As long as it is open,
a block behind the last one is out of range, and nothing comes of asking for it. -/
theorem run_guarded (ok : (openWith failLevel files handler).result = .ok opened)
    (operations : List (Operation η)) :
    opened.Keeps (opened.run operations) ∧
    ((opened.run operations).buffer.size : Int) = opened.footer.frameSize.toInt ∧
    ((opened.run operations).isReady = true ↔ .close ∉ operations) ∧
    (.close ∈ operations → (opened.run operations).Refusing ∧
      ∀ later, opened.run (operations ++ later) = later.foldl adjust (opened.run operations) ∧
        given failLevel files handler (operations ++ later) =
          given failLevel files handler operations) ∧
    (.close ∉ operations → ∀ index, opened.blockCount ≤ index →
      (opened.run operations).readFrame index =
        ⟨opened.run operations, .error (.bounds (.outOfRange index opened.blockCount)), []⟩ ∧
      (opened.run operations).readBlock index =
        ⟨opened.run operations, .error (.bounds (.outOfRange index opened.blockCount)), []⟩ ∧
      given failLevel files handler (operations ++ [.readBlock index]) =
        given failLevel files handler operations) := by
  have keeps := run_keeps opened operations
  have still_open := isReady_run_iff (openWith_isReady ok) operations
  refine ⟨keeps, frameSize_run ok operations, still_open, ?_, ?_⟩
  · intro closes
    have closed := not_isReady_of_close_mem opened closes
    refine ⟨refusing_of_closed closed, fun later => ⟨?_, given_closed ok closes later⟩⟩
    rw [run_append, run_closed closed]
  · intro unclosed index outside
    have ready := still_open.mpr unclosed
    rw [← keeps.blockCount_eq] at outside ⊢
    have refused := readFrame_outside ready outside
    refine ⟨refused, readBlock_outside ready outside, ?_⟩
    exact given_append_of_unshown ok _ _ fun blocks shown =>
      ShownFrame.eq_nil shown (congrArg Step.result refused)

end

end

set_option maxRecDepth 20000 in
/-- The first frame is rejected and then handed out. A third one is out of range
as long as the reader is open; then even the first one is refused, and the cursor
still goes where it is told to. -/
theorem run_guarded_two_frames :
    ∃ opened, (openWith .error twoFrames rejectsFirstFrame).result = .ok opened ∧
      (opened.run [.readNext, .readNext]).readBlock 2 =
        ⟨opened.run [.readNext, .readNext], .error (.bounds (.outOfRange 2 2)), []⟩ ∧
      ¬ (opened.run [.readNext, .close]).isReady = true ∧
      ((opened.run [.readNext, .close]).readFrame 0).result = .error (.bounds .notReady) ∧
      ((opened.run [.readNext, .close]).frames.take 5).1 =
        [.error (.bounds .notReady), .error (.bounds .notReady)] ∧
      (opened.run [.readNext, .close, .readNext, .setCursor 7]).cursor = 7 ∧
      given .error twoFrames rejectsFirstFrame [.readNext, .close, .readNext, .setCursor 7] =
        given .error twoFrames rejectsFirstFrame [.readNext, .close] := by
  have evaluated : (openWith .error twoFrames rejectsFirstFrame).result.toOption.map blockCount =
      some 2 := by cbv
  obtain ⟨opened, ok, count⟩ := exists_ok_of_map evaluated
  obtain ⟨_, _, _, _, as_long_as_open⟩ := run_guarded ok [.readNext, .readNext]
  obtain ⟨_, outside, _⟩ := as_long_as_open (by simp) 2 (Nat.le_of_eq count)
  obtain ⟨keeps, _, still_open, once_closed, _⟩ := run_guarded ok [.readNext, .close]
  have closes : Operation.close ∈ [.readNext, (.close : Operation Recorder)] := by simp
  obtain ⟨refusing, later⟩ := once_closed closes
  obtain ⟨adjusted, unseen⟩ := later [.readNext, .setCursor 7]
  refine ⟨opened, ok, count ▸ outside, fun ready => still_open.mp ready closes,
    congrArg Step.result (refusing.readFrame_eq 0), ?_, congrArg cursor adjusted, unseen⟩
  rw [refusing.frames_eq, keeps.blockCount_eq, count]
  rfl

end Reader

end RawReel
