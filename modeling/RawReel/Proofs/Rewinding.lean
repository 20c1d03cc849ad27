import Mathlib
import RawReel.Footer.Locate
import RawReel.Proofs.Delivery
import RawReel.Proofs.Opening
import RawReel.Stream.Memory

/-!
# Where the search for the footer leaves the streams

The search is to leave the last stream at its start. Main statements:

* `Seekable`: streams that can be moved anywhere, whatever their reads do;
* `Ending`: what a search can come to, and where the last stream stands then;
* `locate_leaves_streams`: the last stream is at its start just if no read of it
  failed and, where it is too short to be read at all, it stood there before. The
  other streams are not moved.
-/

namespace RawReel

/-- Streams that can be moved to any place, and where they stand. What they give
there is left open; reads may fail, and leave them anywhere. -/
structure Seekable (σ : Type) [ByteStream σ] where
  Works : σ → Prop
  position : σ → Nat
  seek : ∀ {s} (target : Nat), Works s →
    ∃ s', ByteStream.seek s target = (.ok (), s') ∧ Works s' ∧ position s' = target
  read : ∀ {s} (want : Nat), Works s → Works (ByteStream.read s want).2

theorem Seekable.fill {σ : Type} [ByteStream σ] (streams : Seekable σ) {s : σ} (want : Nat)
    (works : streams.Works s) : streams.Works (ByteStream.fill s want).stream := by
  fun_induction ByteStream.fill s want with
  | case1 => exact works
  | case2 s want _ s' got | case5 s want _ _ s' got =>
    have read := streams.read want works
    rwa [got] at read
  | case3 s want _ _ _ s' got | case4 s want _ s' got =>
    rename_i ih
    have read := streams.read want works
    rw [got] at read
    exact ih read

/-- Streams in memory whose seeks do not fail. -/
def MemoryStream.seekable : Seekable MemoryStream where
  Works s := s.failSeekFrom = none
  position := MemoryStream.position
  seek := by
    intro s target seeks
    refine ⟨{ s with seeks := s.seeks + 1, position := target }, ?_, seeks, rfl⟩
    simp only [ByteStream.seek, seekTo, seeks, Option.any_none, Bool.false_eq_true, ↓reduceIte]
  read := by
    intro s want seeks
    change (s.readUpTo want).2.failSeekFrom = none
    unfold readUpTo
    split
    · exact seeks
    · split <;> exact seeks

namespace FileSet

variable {σ : Type} [ByteStream σ]

theorem rewind_of_seek {files : FileSet σ} {file : Nat} {member : Member σ}
    (there : files.members[file]? = some member) {moved : σ}
    (seek_eq : ByteStream.seek member.stream 0 = (.ok (), moved)) :
    files.rewind file = (files.setStream file moved, .ok ()) := by
  rw [rewind, there]
  dsimp only
  rw [seek_eq]

theorem members_rewind_other (files : FileSet σ) {file other : Nat} (ne : other ≠ file) :
    (files.rewind file).1.members[other]? = files.members[other]? := by
  unfold rewind
  split
  · rfl
  · exact members_setStream_other files ne _

end FileSet

namespace Footer

section
variable {σ : Type} [ByteStream σ]

/-- The last file as the read of the footer leaves it. -/
def readEnd (last : Member σ) : ByteStream.Filled σ :=
  ByteStream.fill (ByteStream.seek last.stream (last.length - size)).2 size

/-- What a search can come to whose last file is `last`, and the stream of that
file after it. -/
inductive Ending (streams : Seekable σ) (last : Member σ) : Except ReadError Footer → σ → Prop
  | unasked (short : last.length < size) :
      Ending streams last (.error (.format (.truncated last.length size))) last.stream
  | unread {cause : IoError} (long : size ≤ last.length)
      (failed : (readEnd last).outcome = .error cause) :
      Ending streams last (.error (.io cause)) (readEnd last).stream
  | rewound {result : Except ReadError Footer} {stream : σ} (long : size ≤ last.length)
      (read : (readEnd last).outcome = .ok ()) (decided : ∀ cause, result ≠ .error (.io cause))
      (at_start : streams.position stream = 0) : Ending streams last result stream

theorem Ending.at_start_iff {streams : Seekable σ} {last : Member σ}
    {result : Except ReadError Footer} {stream : σ} (ending : Ending streams last result stream) :
    streams.position stream = 0 ↔
      (last.length < size → streams.position last.stream = 0) ∧
      (∀ cause, result = .error (.io cause) → streams.position (readEnd last).stream = 0) := by
  cases ending with
  | unasked short => exact ⟨fun at_start => ⟨fun _ => at_start, nofun⟩, fun both => both.1 short⟩
  | unread long failed =>
    have long_enough : ¬ last.length < size := Nat.not_lt.mpr long
    exact ⟨fun at_start => ⟨fun short => absurd short long_enough, fun _ _ => at_start⟩,
      fun both => both.2 _ rfl⟩
  | rewound long read decided at_start =>
    have long_enough : ¬ last.length < size := Nat.not_lt.mpr long
    exact ⟨fun _ => ⟨fun short => absurd short long_enough,
      fun cause io => absurd io (decided cause)⟩, fun _ => at_start⟩

/-- A footer that is refused for what it says is no fault of the streams. -/
theorem accept_not_io (data : Bytes) (cause : IoError) :
    (accept data).1.mapError ReadError.format ≠ .error (.io cause) := by
  cases (accept data).1 <;> nofun

theorem locate_members_other (files : FileSet σ) {other : Nat} (ne : other ≠ files.size - 1) :
    (locate files).files.members[other]? = files.members[other]? := by
  unfold locate
  split
  · rfl
  · split
    · rfl
    · next length _ _ =>
      have read := files.members_readAt_other ne (length - size) size
      have rewound := ((files.readAt (files.size - 1) (length - size) size).files
        |>.members_rewind_other ne).trans read
      dsimp only
      split
      · exact read
      · split
        · next rewind_eq => rwa [rewind_eq] at rewound
        · next rewind_eq =>
          rw [rewind_eq] at rewound
          split <;> exact rewound

/-- **What a search comes to**, if the last stream can be moved. -/
theorem locate_ending {files : FileSet σ} (streams : Seekable σ) {last : Member σ}
    (ends : files.members[files.size - 1]? = some last) (works : streams.Works last.stream) :
    ∃ stream, (locate files).files.members[files.size - 1]? = some { last with stream } ∧
      Ending streams last (locate files).result stream := by
  have measured : files.lengths.getLast? = some last.length := by
    rw [List.getLast?_eq_getElem?, FileSet.lengths, List.length_map, List.getElem?_map]
    exact congrArg (Option.map Member.length) ends
  by_cases short : last.length < size
  · refine ⟨last.stream, ?_, ?_⟩ <;> simp only [locate, measured, if_pos short]
    · exact ends
    · exact .unasked short
  · have long : size ≤ last.length := Nat.le_of_not_lt short
    obtain ⟨moved, seek_eq, works_moved, _⟩ := streams.seek (last.length - size) works
    have readEnd_eq : readEnd last = ByteStream.fill moved size := by rw [readEnd, seek_eq]
    obtain ⟨outcome, received, there⟩ := FileSet.readAt_of_seek ends seek_eq size
    have works_read := streams.fill size works_moved
    rw [← readEnd_eq] at outcome received there works_read
    cases read : (readEnd last).outcome with
    | error cause =>
      rw [read] at outcome
      refine ⟨(readEnd last).stream, ?_, ?_⟩ <;>
        simp only [locate, measured, if_neg short, outcome, FooterSearch.failed]
      · exact there
      · exact .unread long read
    | ok _ =>
      rw [read] at outcome
      obtain ⟨start, start_eq, _, at_start⟩ := streams.seek 0 works_read
      have rewound := FileSet.rewind_of_seek there start_eq
      refine ⟨start, ?_, ?_⟩ <;> simp only [locate, measured, if_neg short, outcome, rewound]
      · split <;> exact FileSet.members_setStream_self there start
      · refine .rewound long read (fun cause => ?_) at_start
        split
        · intro io
          cases io
        · exact accept_not_io _ cause

/-- **Where the search for the footer leaves the streams.** If the last stream can
be moved, then the search moves no other one, and leaves the last one at its
start, except in two cases: a file too short for a footer is left where it stood,
and one whose footer cannot be read is left where the failed read left it. -/
theorem locate_leaves_streams {files : FileSet σ} (streams : Seekable σ) {last : Member σ}
    (ends : files.members.getLast? = some last) (works : streams.Works last.stream) :
    (∀ other, other ≠ files.size - 1 →
      (locate files).files.members[other]? = files.members[other]?) ∧
    ∃ stream, (locate files).files.members[files.size - 1]? = some { last with stream } ∧
      Ending streams last (locate files).result stream ∧
      (streams.position stream = 0 ↔
        (last.length < size → streams.position last.stream = 0) ∧
        (∀ cause, (locate files).result = .error (.io cause) →
          streams.position (readEnd last).stream = 0)) := by
  rw [List.getLast?_eq_getElem?] at ends
  obtain ⟨stream, there, ending⟩ := locate_ending streams ends works
  exact ⟨fun _ => locate_members_other files, stream, there, ending, ending.at_start_iff⟩

end

/-- A file that stands somewhere and cannot be read from its second byte on. -/
def torn : Member MemoryStream :=
  ⟨{ MemoryStream.ofBytes (List.replicate 193 0) with failReadAt := some 1, position := 7 }, 193⟩

/-- A file that stands somewhere and is too short for a footer. -/
def stump : Member MemoryStream :=
  ⟨{ MemoryStream.ofBytes (List.replicate 40 0) with position := 7 }, 40⟩

/-- A file that stands somewhere and holds just a footer. -/
def footerOnly : Member MemoryStream :=
  ⟨{ MemoryStream.ofBytes (plain 3 0) with position := 7 }, 192⟩

set_option maxRecDepth 20000 in
/-- A search that finds a footer rewinds the last stream, and one that cannot read
it does not; in neither case is the other stream moved. -/
theorem locate_leaves_streams_torn :
    (∃ stream, (locate ⟨[stump, footerOnly]⟩).files.members[0]? = some stump ∧
      (locate ⟨[stump, footerOnly]⟩).files.members[1]? = some { footerOnly with stream } ∧
      stream.position = 0) ∧
    ∃ stream, (locate ⟨[stump, torn]⟩).files.members[0]? = some stump ∧
      (locate ⟨[stump, torn]⟩).files.members[1]? = some { torn with stream } ∧
      stream.position ≠ 0 := by
  have found : (locate ⟨[stump, footerOnly]⟩).result.toOption.isSome = true := by cbv
  have failed : (locate ⟨[stump, torn]⟩).result = .error (.io MemoryStream.readFailure) := by cbv
  have away : (readEnd torn).stream.position = 1 := by cbv
  constructor
  · obtain ⟨others, stream, there, _, at_start⟩ :=
      @locate_leaves_streams _ _ ⟨[stump, footerOnly]⟩ MemoryStream.seekable footerOnly rfl rfl
    refine ⟨stream, others 0 (by decide), there, at_start.mpr ⟨by decide, fun cause io => ?_⟩⟩
    rw [io] at found
    cases found
  · obtain ⟨others, stream, there, _, at_start⟩ :=
      @locate_leaves_streams _ _ ⟨[stump, torn]⟩ MemoryStream.seekable torn rfl rfl
    refine ⟨stream, others 0 (by decide), there, fun start => ?_⟩
    have read_from_start := (at_start.mp start).2 _ failed
    rw [show MemoryStream.seekable.position (readEnd torn).stream = 1 from away] at read_from_start
    cases read_from_start

/-- The last stream does not stand at its start if the footer cannot be read, nor
if the file is too short for one and the stream stood elsewhere before. -/
theorem locate_leaves_last_away :
    (locate ⟨[torn]⟩).result = .error (.io MemoryStream.readFailure) ∧
    (locate ⟨[torn]⟩).files.streams.map (·.position) = [1] ∧
    (locate ⟨[stump]⟩).result = .error (.format (.truncated 40 192)) ∧
    (locate ⟨[stump]⟩).files.streams.map (·.position) = [7] := by
  refine ⟨?_, ?_, ?_, ?_⟩ <;> cbv

end Footer

end RawReel
