import Mathlib
import RawReel.Proofs.SelfDescribing

/-!
# Reading stays inside of the files and of the buffer

Streams may hold more or less than was measured, fail, and change from call to
call. Reading goes on from file to file only as far as the measured lengths say
that the frame does.

* `Asked`: the rounds of reading a frame, one file after the other, with no
  bound on how many there are;
* `asked_inside`: every round asks a file of the set, for what the buffer lacks;
* `gather_rounds`: a frame is gathered in such rounds, so they come to an end
  before the files do;
* `reads_stay_inside`: so it is for every frame of every reader that was opened.
-/

namespace RawReel

theorem ByteStream.length_fill_le {σ : Type} [ByteStream σ] (s : σ) (want : Nat) :
    (fill s want).received.length ≤ want := by
  fun_induction fill s want with
  | case1 | case2 | case5 => exact Nat.zero_le _
  | case3 s want _ b bytes s' got rest ih =>
    have given := length_le got
    change ((b :: bytes) ++ (fill s' (want - (b :: bytes).length)).received).length ≤ want
    rw [List.length_append]
    omega
  | case4 _ _ _ _ _ ih => exact ih

theorem FileSet.size_eq {σ : Type} (files : FileSet σ) : files.size = files.lengths.length :=
  (List.length_map _).symm

theorem FileSet.length_received_le {σ : Type} [ByteStream σ] (files : FileSet σ)
    (file offset want : Nat) : (files.readAt file offset want).received.length ≤ want := by
  unfold readAt
  split
  · exact Nat.zero_le _
  · split
    · exact Nat.zero_le _
    · exact ByteStream.length_fill_le ..

/-- The frames that were found to go on in a next file, and that file. -/
def Diagnostic.continuation? : Diagnostic → Option (Nat × Nat)
  | continues index file => some (index, file)
  | _ => none

def Log.continuations (log : Log) : List (Nat × Nat) := log.filterMap Diagnostic.continuation?

theorem Log.continuations_continues (before after : Log) (index file : Nat) :
    continuations (before ++ .continues index file :: after) =
      continuations before ++ (index, file) :: continuations after :=
  List.filterMap_append ..

theorem FileSet.continuations_readAt {σ : Type} [ByteStream σ] (files : FileSet σ)
    (file offset want : Nat) :
    Log.continuations (files.readAt file offset want).log = [] := by
  unfold readAt
  split
  · rfl
  · split
    · rfl
    · dsimp only
      split <;> rfl

/-- A round of reading a frame: `file` is asked for the rest of it, from `offset`
on, when `received` is there. -/
structure Round (σ : Type) where
  files : FileSet σ
  file : Nat
  offset : Nat
  received : Bytes

namespace Round

variable {σ : Type} [ByteStream σ]

/-- What the file gives. -/
def access (round : Round σ) (frameSize : Nat) : FileSet.Access σ :=
  round.files.readAt round.file round.offset (frameSize - round.received.length)

/-- How much of it the file has to give, as long as it was measured. -/
def expected (round : Round σ) (frameSize : Nat) : Nat :=
  min (frameSize - round.received.length)
    ((round.files.length? round.file).getD 0 - round.offset)

/-- What is there after the round. -/
def sofar (round : Round σ) (frameSize : Nat) : Bytes :=
  round.received ++ (round.access frameSize).received

/-- After this round the next file is asked: this one gave what it has to, and the
frame is not whole. -/
structure GoesOn (round : Round σ) (frameSize : Nat) : Prop where
  outcome : (round.access frameSize).outcome = .ok ()
  enough : round.expected frameSize ≤ (round.access frameSize).received.length
  short : (round.sofar frameSize).length < frameSize

def next (round : Round σ) (frameSize : Nat) : Round σ :=
  ⟨(round.access frameSize).files, round.file + 1, 0, round.sofar frameSize⟩

/-- The rounds that follow a first one, and how many were before each of them. -/
inductive Asked (frameSize : Nat) (first : Round σ) : Nat → Round σ → Prop
  | first : Asked frameSize first 0 first
  | next {n : Nat} {round : Round σ} (before : Asked frameSize first n round)
      (goes_on : round.GoesOn frameSize) : Asked frameSize first (n + 1) (round.next frameSize)

theorem Asked.of_next {frameSize n : Nat} {first round : Round σ}
    (goes_on : first.GoesOn frameSize) (later : Asked frameSize (first.next frameSize) n round) :
    Asked frameSize first (n + 1) round := by
  induction later with
  | first => exact .next .first goes_on
  | next _ goes_on' ih => exact .next ih goes_on'

/-- The round asks a file of the set, and from there on to the last file at least
what the buffer still lacks was measured. -/
structure Inside (lengths : List Nat) (frameSize : Nat) (round : Round σ) : Prop where
  lengths_eq : round.files.lengths = lengths
  file_lt : round.file < lengths.length
  lacking : round.received.length < frameSize
  measured : frameSize - round.received.length ≤ (lengths.drop round.file).sum - round.offset

variable {lengths : List Nat} {frameSize : Nat} {first round : Round σ}

theorem length_sofar_le (room : round.received.length ≤ frameSize) :
    (round.sofar frameSize).length ≤ frameSize := by
  have given := round.files.length_received_le round.file round.offset
    (frameSize - round.received.length)
  rw [sofar, access, List.length_append]
  omega

theorem Inside.next (inside : Inside lengths frameSize round) (goes_on : round.GoesOn frameSize) :
    Inside lengths frameSize (round.next frameSize) := by
  have file_lt := inside.file_lt
  have there := List.getElem?_eq_getElem file_lt
  have rest : (lengths.drop round.file).sum =
      lengths[round.file] + (lengths.drop (round.file + 1)).sum := by
    rw [List.drop_eq_getElem_cons file_lt, List.sum_cons]
  have enough := goes_on.enough
  have short := goes_on.short
  have measured := inside.measured
  rw [expected, FileSet.length?, inside.lengths_eq, there, Option.getD_some] at enough
  rw [sofar, List.length_append] at short
  -- The frame is not whole, so the file gave all that it was measured to have.
  have left : frameSize - (round.sofar frameSize).length ≤
      (lengths.drop (round.file + 1)).sum := by
    rw [sofar, List.length_append]
    omega
  refine ⟨?_, ?_, goes_on.short, left⟩
  · exact (FileSet.lengths_readAt ..).trans inside.lengths_eq
  · by_contra last
    have past : lengths.length ≤ round.file + 1 := Nat.le_of_not_lt last
    rw [List.drop_eq_nil_of_le past, List.sum_nil] at left
    have still_short := goes_on.short
    omega

/-- **Every round asks a file of the set.** -/
theorem asked_inside (inside : Inside lengths frameSize first) {n : Nat}
    (asked : Asked frameSize first n round) :
    Inside lengths frameSize round ∧ round.file = first.file + n := by
  induction asked with
  | first => exact ⟨inside, rfl⟩
  | next _ goes_on ih => exact ⟨ih.1.next goes_on, congrArg (· + 1) ih.2⟩

end Round

namespace Reader

section
variable {σ : Type} [ByteStream σ] {lengths : List Nat} {frameSize : Nat}

/-- What was gathered is what there is after the round, from the files as it left them. -/
structure GatheredBy (round : Round σ) (frameSize : Nat) (gathered : Gathered σ) : Prop where
  files_eq : gathered.files = (round.access frameSize).files
  received_eq : gathered.received = round.sofar frameSize

/-- A round that no other follows ends the reading, for lack of nothing but bytes
of that file. -/
theorem gather_ends_round {round : Round σ} (ends : ¬ round.GoesOn frameSize) (index left : Nat) :
    let gathered :=
      gather index frameSize left round.files round.file round.offset round.received
    GatheredBy round frameSize gathered ∧ Log.continuations gathered.log = [] ∧
      ∀ i f m, gathered.result ≠ .error (.size (.missingContinuation i f m)) := by
  have quiet := round.files.continuations_readAt round.file round.offset
    (frameSize - round.received.length)
  unfold gather
  dsimp only
  split
  · exact ⟨⟨rfl, rfl⟩, quiet, nofun⟩
  · next outcome =>
    split
    · exact ⟨⟨rfl, rfl⟩, quiet, nofun⟩
    · next enough =>
      split
      · exact ⟨⟨rfl, rfl⟩, quiet, nofun⟩
      · next short =>
        exact absurd ⟨outcome, Nat.le_of_not_lt enough, Nat.lt_of_not_le short⟩ ends

/-- A round that another one follows. -/
theorem gather_next_round {round : Round σ} (goes_on : round.GoesOn frameSize)
    (index left : Nat) :
    gather index frameSize (left + 1) round.files round.file round.offset round.received =
      let next := round.next frameSize
      let rest := gather index frameSize left next.files next.file next.offset next.received
      { rest with log :=
          (round.access frameSize).log ++ .continues index (round.file + 1) :: rest.log } := by
  obtain ⟨outcome, enough, short⟩ := goes_on
  simp only [Round.sofar, Round.expected, Round.access] at outcome enough short
  rw [gather]
  dsimp only
  rw [outcome]
  dsimp only
  rw [if_neg (Nat.not_lt_of_le enough), if_neg (Nat.not_le_of_lt short)]
  rfl

/-- **A frame is gathered in rounds that come to an end.** None is left over when
the files are. -/
theorem gather_rounds {round : Round σ} (inside : round.Inside lengths frameSize)
    (index : Nat) {left : Nat} (files_left : lengths.length ≤ round.file + left + 1) :
    let gathered :=
      gather index frameSize left round.files round.file round.offset round.received
    (∃ n last, round.Asked frameSize n last ∧ ¬ last.GoesOn frameSize ∧
      GatheredBy last frameSize gathered ∧ Log.continuations gathered.log =
        (List.range n).map fun k => (index, round.file + k + 1)) ∧
    ∀ i f m, gathered.result ≠ .error (.size (.missingContinuation i f m)) := by
  by_cases goes_on : round.GoesOn frameSize
  · have inside_next := inside.next goes_on
    have next_lt : round.file + 1 < lengths.length := inside_next.file_lt
    cases left with
    | zero => omega
    | succ left =>
      have files_left_next : lengths.length ≤ (round.next frameSize).file + left + 1 :=
        Nat.le_trans files_left (by simp only [Round.next]; omega)
      obtain ⟨⟨n, last, asked, ends, ⟨files_eq, received_eq⟩, continuations⟩, not_missing⟩ :=
        gather_rounds inside_next index files_left_next
      have quiet : Log.continuations (round.access frameSize).log = [] :=
        round.files.continuations_readAt ..
      rw [gather_next_round goes_on]
      refine ⟨⟨n + 1, last, asked.of_next goes_on, ends, ⟨files_eq, received_eq⟩, ?_⟩,
        not_missing⟩
      dsimp only
      rw [Log.continuations_continues, quiet, continuations, List.nil_append,
        List.range_succ_eq_map, List.map_cons, List.map_map, List.cons.injEq]
      refine ⟨rfl, List.map_congr_left ?_⟩
      intro k _
      simp only [Round.next, Function.comp_apply, Prod.mk.injEq, true_and]
      omega
  · obtain ⟨gathered_by, quiet, not_missing⟩ := gather_ends_round goes_on index left
    exact ⟨⟨0, round, .first, goes_on, gathered_by, quiet⟩, not_missing⟩
termination_by left

end

section
variable {σ η : Type}

/-- The first round of reading a frame of a reader asks for no more than was measured. -/
theorem Laid.first_inside {r : Reader σ η} {files : FileSet σ} {index : Nat}
    {start : BlockDescriptor} (laid : r.Laid files.lengths)
    (there : r.index.get? index = some start) :
    Round.Inside files.lengths r.frameSize ⟨files, start.file, start.offset, []⟩ := by
  have indexed : index < r.blockCount := (Array.getElem?_eq_some_iff.mp there).1
  have fits := laid.frame_before_footer indexed
  rw [laid.index_eq] at there
  have placed := BlockIndex.build_placed there
  have whole : (files.lengths.take start.file).sum + (files.lengths.drop start.file).sum =
      files.lengths.sum := by
    rw [← List.sum_append, List.take_append_drop]
  have start_eq := placed.offset_eq
  rw [Nat.succ_mul] at fits
  refine ⟨rfl, placed.file_lt, laid.frameSize_pos, ?_⟩
  simp only [List.length_nil]
  omega

/-- A block that hands out a frame has all of it in its buffer. -/
theorem WholeFrame.within {r : Reader σ η} {block : Block} (whole : r.WholeFrame block) :
    block.offset + block.length ≤ block.buffer.size := by
  obtain ⟨index, frame, shows, full⟩ := whole
  have length_eq : block.data.length = block.length := by
    rw [shows.data_eq, full, shows.length_eq]
  rw [Block.data, FrameBuffer.slice_eq, List.length_take, List.length_drop,
    FrameBuffer.length_contents, shows.offset_eq] at length_eq
  rw [shows.offset_eq]
  omega

theorem preamble_within (r : Reader σ η) :
    ∀ block ∈ r.preamble, block.offset + block.length ≤ block.buffer.size := by
  intro block listed
  simp only [preamble, List.mem_cons, List.not_mem_nil, or_false] at listed
  rcases listed with rfl | rfl <;> exact Nat.zero_le _

variable [ByteStream σ]

/-- Every round in which a frame of the index is read asks a file of the set, and has
room in the buffer. -/
theorem Laid.asked_within {r : Reader σ η} {files : FileSet σ} {index n : Nat}
    {start : BlockDescriptor} {round : Round σ} (laid : r.Laid files.lengths)
    (found : r.index.get? index = some start)
    (asked : Round.Asked r.frameSize ⟨files, start.file, start.offset, []⟩ n round) :
    round.files.size = files.size ∧ round.file = start.file + n ∧ round.file < files.size ∧
      round.received.length < r.frameSize := by
  obtain ⟨inside, file_eq⟩ := Round.asked_inside (laid.first_inside found) asked
  have same := FileSet.size_eq_of_lengths inside.lengths_eq
  exact ⟨same, file_eq, files.size_eq ▸ inside.file_lt, inside.lacking⟩

/-- The rounds in which a frame of the index is read. -/
theorem readFrame_rounds {r : Reader σ η} {files : FileSet σ} {index : Nat}
    {start : BlockDescriptor} (laid : r.Laid files.lengths) (there : r.files = some files)
    (found : r.index.get? index = some start) :
    (∃ n last, Round.Asked r.frameSize ⟨files, start.file, start.offset, []⟩ n last ∧
      ¬ last.GoesOn r.frameSize ∧
      (r.readFrame index).reader.files = some (last.access r.frameSize).files ∧
      (r.readFrame index).reader.buffer = r.buffer.overwrite (last.sofar r.frameSize) ∧
      Log.continuations (r.readFrame index).log =
        (List.range n).map fun k => (index, start.file + k + 1)) ∧
    ∀ i f m, (r.readFrame index).result ≠ .error (.size (.missingContinuation i f m)) := by
  have inside := laid.first_inside found
  have files_left : files.lengths.length ≤ start.file + (files.size - 1 - start.file) + 1 := by
    rw [← files.size_eq]
    omega
  obtain ⟨⟨n, last, asked, ends, gathered_by, continuations⟩, not_missing⟩ :=
    gather_rounds inside index files_left
  simp only [readFrame, there, found]
  refine ⟨⟨n, last, asked, ends, congrArg some gathered_by.files_eq,
    congrArg r.buffer.overwrite gathered_by.received_eq, continuations⟩, ?_⟩
  intro i f m missing
  cases result : (gather index r.frameSize (files.size - 1 - start.file) files start.file
      start.offset []).result with
  | ok _ => rw [result] at missing; cases missing
  | error e =>
    rw [result] at missing
    cases missing
    exact not_missing i f m result

/-- No read finds that the files end before the frame does. -/
theorem readFrame_not_missing {r : Reader σ η}
    (laid : ∀ files, r.files = some files → r.Laid files.lengths) (index i f m : Nat) :
    (r.readFrame index).result ≠ .error (.size (.missingContinuation i f m)) := by
  intro missing
  cases there : r.files with
  | none =>
    have closed : ¬ r.isReady = true := by simp [isReady, there]
    rw [readFrame_closed closed] at missing
    cases missing
  | some files =>
    cases found : r.index.get? index with
    | some start => exact (readFrame_rounds (laid files there) there found).2 i f m missing
    | none =>
      have ready : r.isReady = true := by simp [isReady, there]
      rw [readFrame_outside ready (Array.getElem?_eq_none_iff.mp found)] at missing
      cases missing

variable [BlockHandler η]

/-- A reader that was opened stays laid out on the files it stands on. -/
theorem run_laid {files now : FileSet σ} {failLevel : Level} {handler : η} {opened : Reader σ η}
    (ok : (openWith failLevel files handler).result = .ok opened)
    (operations : List (Operation η)) (there : (opened.run operations).files = some now) :
    (opened.run operations).Laid now.lengths := by
  have ready : (opened.run operations).isReady = true := by rw [isReady, there, Option.isSome_some]
  obtain ⟨_, there', accessed⟩ := run_files ok operations ready
  obtain rfl := Option.some.inj (there.symm.trans there')
  exact accessed.lengths_eq ▸ (openWith_laid ok).1.keeps (run_keeps opened operations)

/-- A recording that was opened has a last file, long enough for the footer. -/
theorem openWith_last {files : FileSet σ} {failLevel : Level} {handler : η} {opened : Reader σ η}
    (ok : (openWith failLevel files handler).result = .ok opened) :
    ∃ last, files.members[files.size - 1]? = some last ∧ Footer.size ≤ last.length := by
  obtain ⟨length, last_length, fits⟩ := (openWith_laid ok).1.footer_fits
  rw [List.getLast?_eq_getElem?, ← files.size_eq, FileSet.lengths, List.getElem?_map,
    Option.map_eq_some_iff] at last_length
  obtain ⟨last, there, rfl⟩ := last_length
  exact ⟨last, there, fits⟩

/-- **Reading stays inside.** Whatever the streams give, and whatever is called
before, the rounds in which a frame is read ask for files of the set only, put what
they get into the buffer behind what is there, and end with the files at the
latest; the last of them leaves the files and the buffer as the read does. A frame
that was read is in the index, and no block reaches beyond its buffer. -/
theorem reads_stay_inside {files : FileSet σ} {failLevel : Level} {handler : η}
    {opened : Reader σ η} (ok : (openWith failLevel files handler).result = .ok opened)
    (operations : List (Operation η)) :
    let r := opened.run operations
    (∃ last, files.members[files.size - 1]? = some last ∧ Footer.size ≤ last.length) ∧
    (∀ now index start, r.files = some now → r.index.get? index = some start →
      (∀ n round, Round.Asked r.frameSize ⟨now, start.file, start.offset, []⟩ n round →
        round.files.size = now.size ∧ round.file = start.file + n ∧ round.file < now.size ∧
        round.received.length < r.buffer.size ∧
        (round.sofar r.frameSize).length ≤ r.buffer.size) ∧
      ∃ n last, Round.Asked r.frameSize ⟨now, start.file, start.offset, []⟩ n last ∧
        ¬ last.GoesOn r.frameSize ∧ n + 1 ≤ now.size - start.file ∧
        (r.readFrame index).reader.files = some (last.access r.frameSize).files ∧
        (r.readFrame index).reader.buffer = r.buffer.overwrite (last.sofar r.frameSize) ∧
        Log.continuations (r.readFrame index).log =
          (List.range n).map fun k => (index, start.file + k + 1)) ∧
    (∀ index i f m,
      (r.readFrame index).result ≠ .error (.size (.missingContinuation i f m))) ∧
    (∀ index frame, (r.readFrame index).result = .ok frame →
      ∃ start, (r.readFrame index).reader.index.get? index = some start) ∧
    ∀ block ∈ given failLevel files handler operations,
      block.offset + block.length ≤ block.buffer.size := by
  intro r
  have laid (now : FileSet σ) (there : r.files = some now) : r.Laid now.lengths :=
    run_laid ok operations there
  refine ⟨openWith_last ok, ?_, readFrame_not_missing laid, ?_, ?_⟩
  · intro now index start there found
    refine ⟨?_, ?_⟩
    · intro n round asked
      obtain ⟨same, file_eq, file_lt, lacking⟩ := (laid now there).asked_within found asked
      exact ⟨same, file_eq, file_lt, lacking, Round.length_sofar_le (Nat.le_of_lt lacking)⟩
    · obtain ⟨⟨n, last, asked, ends, read⟩, _⟩ := readFrame_rounds (laid now there) there found
      obtain ⟨_, file_eq, file_lt, _⟩ := (laid now there).asked_within found asked
      exact ⟨n, last, asked, ends, by omega, read⟩
  · intro index frame read
    obtain ⟨start, found⟩ := (readFrame_ok read).1
    exact ⟨start, (readFrame_keeps r index).index_eq ▸ found⟩
  · obtain ⟨blocks, given_eq, streamed⟩ := given_streamed ok operations
    rw [given_eq]
    refine List.forall_mem_append.mpr ⟨opened.preamble_within, ?_⟩
    exact fun block among => (streamed.wholeFrame block among).within

end

/-- A recording of two frames of three bytes, in files of which the second one was
measured as empty and is not, and the last one hands out one byte at a time. -/
def unsteady : FileSet MemoryStream :=
  ⟨[⟨.ofBytes [0, 1, 2, 3], 4⟩, ⟨.ofBytes [9], 0⟩,
    ⟨{ MemoryStream.ofBytes ([4, 5] ++ Footer.plain 3 2) with portion := some 1 }, 194⟩]⟩

set_option maxRecDepth 20000 in
theorem unsteady_opens :
    ∃ opened, (openWith .error unsteady NullHandler.mk).result = .ok opened ∧
      (opened.run [.readNext]).isReady = true ∧
      ((opened.run [.readNext]).index.get? 1).map (·.file) = some 0 ∧
      Log.continuations ((opened.run [.readNext]).readFrame 1).log = [(1, 1), (1, 2)] := by
  have evaluated : (openWith .error unsteady NullHandler.mk).result.toOption.map (fun opened =>
      let r := opened.run [.readNext]
      (r.isReady, (r.index.get? 1).map (·.file), Log.continuations (r.readFrame 1).log)) =
      some (true, some 0, [(1, 1), (1, 2)]) := by cbv
  obtain ⟨opened, ok, evaluated⟩ := exists_ok_of_map evaluated
  simp only [Prod.mk.injEq] at evaluated
  exact ⟨opened, ok, evaluated⟩

theorem reads_stay_inside_unsteady :
    ∃ opened now n, (openWith .error unsteady NullHandler.mk).result = .ok opened ∧
      (opened.run [.readNext]).files = some now ∧
      n + 1 ≤ now.size ∧ [(1, 1), (1, 2)] = (List.range n).map (fun k => (1, k + 1)) ∧
      (∀ i f m, ((opened.run [.readNext]).readFrame 1).result ≠
        .error (.size (.missingContinuation i f m))) ∧
      ∀ block ∈ given .error unsteady NullHandler.mk [.readNext],
        block.offset + block.length ≤ block.buffer.size := by
  obtain ⟨opened, ok, ready, file_eq, continuations⟩ := unsteady_opens
  obtain ⟨_, rounds, not_missing, _, within⟩ := reads_stay_inside ok [.readNext]
  obtain ⟨now, there⟩ := Option.isSome_iff_exists.mp ready
  obtain ⟨start, found, first⟩ := Option.map_eq_some_iff.mp file_eq
  obtain ⟨_, n, _, _, _, le, _, _, reported⟩ := rounds now 1 start there found
  rw [continuations, first] at reported
  rw [first] at le
  refine ⟨opened, now, n, ok, there, le, ?_, not_missing 1, within⟩
  simpa only [Nat.zero_add] using reported

end Reader

end RawReel
