import Mathlib
import RawReel.Proofs.Growth

/-!
# Files that come short

A file may hand out less than was measured: it was cut since, or it is damaged.
A frame stands in segments, one in each file, and is lost with the first segment
that its file does not hand out to the end. Main statements:

* `flatMap_segments`: the segments, put together, are the frame;
* `gather_shortened`: the rest of a frame, or the first file that comes short;
* `disturbed_laid`: what happens to the files leaves the layout as it was measured;
* `short_files_detected`: frames of files that come short.
-/

namespace RawReel

/-- The part of a file from byte `first` to byte `stop`. -/
structure Segment where
  first : Nat
  stop : Nat

namespace Segment

def bytes (part : Segment) (data : Bytes) : Bytes := (data.take part.stop).drop part.first

end Segment

/-- Where the bytes from `start` to `stop` of all files, joined, stand in file `k`. -/
def segment (lengths : List Nat) (start stop k : Nat) : Segment :=
  let before := (lengths.take k).sum
  ⟨start - before, min (stop - before) (lengths.getD k 0)⟩

theorem segment_succ (length : Nat) (lengths : List Nat) (start stop k : Nat) :
    segment (length :: lengths) start stop (k + 1) =
      segment lengths (start - length) (stop - length) k := by
  simp only [segment, List.take_succ_cons, List.sum_cons, Nat.sub_add_eq, List.getD_cons_succ]

/-- **The segments, put together, are the stretch.** -/
theorem flatMap_segments (contents : List Bytes) {start stop : Nat} (ordered : start ≤ stop) :
    (List.range contents.length).flatMap (fun k =>
        (segment (contents.map List.length) start stop k).bytes (contents.getD k [])) =
      (contents.flatten.take stop).drop start := by
  induction contents generalizing start stop with
  | nil => simp
  | cons data rest ih =>
    have first : (segment ((data :: rest).map List.length) start stop 0).bytes data =
        (data.take stop).drop start := by
      simp only [segment, Segment.bytes, List.map_cons, List.take_zero, List.sum_nil, Nat.sub_zero,
        List.getD_cons_zero, ← List.take_eq_take_min]
    have later := ih (Nat.sub_le_sub_right ordered data.length)
    rw [List.length_cons, List.range_succ_eq_map, List.flatMap_cons, List.flatMap_map]
    simp only [List.getD_cons_zero, List.getD_cons_succ, List.map_cons, segment_succ]
    rw [later, List.flatten_cons, List.take_append, List.drop_append, ← first]
    congr 1
    by_cases ends : stop ≤ data.length
    · simp only [Nat.sub_eq_zero_of_le ends, List.take_zero, List.drop_nil]
    · rw [List.take_of_length_le (by omega : data.length ≤ stop)]

/-- The frame from `start` to `stop` has bytes in file `k` that the file does not
hand out. -/
def Lost (lengths readable : List Nat) (start stop k : Nat) : Prop :=
  let part := segment lengths start stop k
  part.first < part.stop ∧ readable.getD k 0 < part.stop

/-- The first file that does not hand out all that the frame has in it. -/
structure FirstLost (lengths readable : List Nat) (start stop k : Nat) : Prop where
  lost : Lost lengths readable start stop k
  earlier : ∀ j < k, ¬ Lost lengths readable start stop j

theorem Lost.first {lengths readable : List Nat} {start stop k : Nat}
    (lost : Lost lengths readable start stop k) : ∃ k, FirstLost lengths readable start stop k := by
  classical
  have some_lost : ∃ k, Lost lengths readable start stop k := ⟨k, lost⟩
  exact ⟨Nat.find some_lost, Nat.find_spec some_lost, fun _ before => Nat.find_min some_lost before⟩

/-- Nothing is lost of files behind the end of the frame. -/
theorem not_lost_of_le {lengths : List Nat} {stop k : Nat} (le : stop ≤ (lengths.take k).sum)
    (readable : List Nat) (start : Nat) : ¬ Lost lengths readable start stop k := by
  simp only [Lost, segment]
  omega

/-- Nothing is lost of files in front of the start of the frame. -/
theorem not_lost_of_before {lengths : List Nat} {start k : Nat}
    (le : (lengths.take (k + 1)).sum ≤ start) (readable : List Nat) (stop : Nat) :
    ¬ Lost lengths readable start stop k := by
  simp only [Lost, segment, List.getD_eq_getElem?_getD]
  cases there : lengths[k]? with
  | none => simp
  | some length =>
    rw [sum_take_succ there] at le
    rw [Option.getD_some]
    omega

theorem FirstLost.unique {lengths readable : List Nat} {start stop k l : Nat}
    (first : FirstLost lengths readable start stop k)
    (first' : FirstLost lengths readable start stop l) : k = l := by
  apply Nat.le_antisymm
  · exact Nat.le_of_not_lt fun before => first.earlier l before first'.lost
  · exact Nat.le_of_not_lt fun before => first'.earlier k before first.lost

/-- A frame was followed as far as to `offset` of `file`: `want` bytes of it are
left, and none were lost so far. -/
structure Reached (lengths readable : List Nat) (start stop file offset want : Nat) : Prop where
  first_eq : start - (lengths.take file).sum = offset
  stop_eq : (lengths.take file).sum + offset + want = stop
  earlier : ∀ j < file, ¬ Lost lengths readable start stop j

theorem Placed.reached {lengths : List Nat} {start file inner : Nat}
    (placed : Placed lengths start file inner) (readable : List Nat) (want : Nat) :
    Reached lengths readable start (start + want) file inner want := by
  have start_eq := placed.offset_eq
  refine ⟨by omega, by omega, fun j before => not_lost_of_before ?_ readable _⟩
  have earlier : (lengths.take (j + 1)).sum ≤ (lengths.take file).sum :=
    List.monotone_sum_take lengths before
  omega

namespace Reached

variable {lengths readable : List Nat} {start stop file offset want length limit : Nat}

/-- The file comes short just if it has less to hand out than was measured and wanted. -/
theorem lost_iff (reached : Reached lengths readable start stop file offset want)
    (measured : lengths[file]? = some length) (handed : readable[file]? = some limit) :
    Lost lengths readable start stop file ↔ limit - offset < min want (length - offset) := by
  have first_eq := reached.first_eq
  have stop_eq := reached.stop_eq
  simp only [Lost, segment, List.getD_eq_getElem?_getD, measured, handed, Option.getD_some]
  omega

theorem part_eq (reached : Reached lengths readable start stop file offset want)
    (measured : lengths[file]? = some length) (inside : offset ≤ length) :
    (segment lengths start stop file).first = offset ∧
      (segment lengths start stop file).stop - offset = min want (length - offset) := by
  have first_eq := reached.first_eq
  have stop_eq := reached.stop_eq
  simp only [segment, List.getD_eq_getElem?_getD, measured, Option.getD_some]
  omega

theorem none_lost (reached : Reached lengths readable start stop file offset want)
    (measured : lengths[file]? = some length) (inside : offset ≤ length)
    (kept : ¬ Lost lengths readable start stop file) (ends : want ≤ length - offset) (k : Nat) :
    ¬ Lost lengths readable start stop k := by
  rcases Nat.lt_trichotomy k file with before | rfl | after
  · exact reached.earlier k before
  · exact kept
  · have stop_eq := reached.stop_eq
    have passed := sum_take_succ measured
    have later : (lengths.take (file + 1)).sum ≤ (lengths.take k).sum :=
      List.monotone_sum_take lengths after
    exact not_lost_of_le (by omega) readable start

theorem next (reached : Reached lengths readable start stop file offset want)
    (measured : lengths[file]? = some length) (inside : offset ≤ length)
    (kept : ¬ Lost lengths readable start stop file) (goes_on : length - offset ≤ want) :
    Reached lengths readable start stop (file + 1) 0 (want - (length - offset)) := by
  have first_eq := reached.first_eq
  have stop_eq := reached.stop_eq
  refine ⟨?_, ?_, fun j before => ?_⟩
  · rw [sum_take_succ measured]
    omega
  · rw [sum_take_succ measured]
    omega
  · rcases Nat.lt_succ_iff_lt_or_eq.mp before with before | rfl
    · exact reached.earlier j before
    · exact kept

end Reached

namespace Reader

/-- What becomes of a frame whose bytes, as far as none are lost, are `frame`. -/
structure Followed {σ : Type} (lengths readable : List Nat) (start stop index : Nat)
    (gathered : Gathered σ) (frame : Bytes) : Prop where
  whole : (∀ k, ¬ Lost lengths readable start stop k) →
    gathered.result = .ok () ∧ gathered.received = frame
  short : ∀ k, FirstLost lengths readable start stop k →
    let part := segment lengths start stop k
    gathered.result = .error (.size (.shortRead index k (readable.getD k 0 - part.first)
      (part.stop - part.first)))

section
variable {σ : Type} {whole : List Bytes} {data : Bytes} {readable : List Nat} {files : FileSet σ}
  {file : Nat}

/-- File `file` held `data` when it was measured, and hands out the first `limit`
bytes of it. -/
structure HandedOut (files : FileSet σ) (whole : List Bytes) (readable : List Nat) (file : Nat)
    (data : Bytes) (limit : Nat) : Prop where
  measured : files.lengths[file]? = some data.length
  handed : readable[file]? = some limit
  le : limit ≤ data.length
  there : (cut readable whole)[file]? = some (data.take limit)

theorem exists_handedOut (measured : files.lengths = whole.map List.length)
    (shorter : List.Forall₂ (· ≤ ·) readable files.lengths) (held : whole[file]? = some data) :
    ∃ limit, HandedOut files whole readable file data limit := by
  have length_there : files.lengths[file]? = some data.length := by
    rw [measured, List.getElem?_map, held, Option.map_some]
  obtain ⟨limit, handed, le⟩ := forall₂_getElem? shorter length_there
  refine ⟨limit, length_there, handed, le, ?_⟩
  rw [cut, List.getElem?_zipWith, handed, held]

theorem HandedOut.length_take {limit : Nat} (out : HandedOut files whole readable file data limit) :
    (data.take limit).length = limit := List.length_take_of_le out.le

theorem HandedOut.length?_eq {limit : Nat} (out : HandedOut files whole readable file data limit) :
    (files.length? file).getD 0 = data.length := by
  rw [FileSet.length?, out.measured, Option.getD_some]

variable [ByteStream σ] {contents rest : List Bytes} {received : Bytes}
  {frameSize offset start stop limit : Nat}

/-- A file that comes short. -/
theorem gather_short (holds : files.Holds contents) (there : contents[file]? = some data)
    (short : data.length - offset <
      min (frameSize - received.length) ((files.length? file).getD 0 - offset)) (index left : Nat) :
    (gather index frameSize left files file offset received).result =
      .error (.size (.shortRead index file (data.length - offset)
        (min (frameSize - received.length) ((files.length? file).getD 0 - offset)))) := by
  obtain ⟨after, _, _, read_eq⟩ := holds.readAt there offset (frameSize - received.length)
  have length_read : ((data.drop offset).take (frameSize - received.length)).length =
      data.length - offset := by
    rw [List.length_take, List.length_drop]
    omega
  unfold gather
  simp only [read_eq, length_read, if_pos short]

/-- Following a frame ends with the file that comes short. -/
theorem gather_lost (holds : files.Holds (cut readable whole))
    (out : HandedOut files whole readable file data limit) (inside : offset ≤ data.length)
    (reached : Reached files.lengths readable start stop file offset (frameSize - received.length))
    (lost : Lost files.lengths readable start stop file) (index left : Nat) (frame : Bytes) :
    Followed files.lengths readable start stop index
      (gather index frameSize left files file offset received) frame := by
  refine ⟨fun none_lost => absurd lost (none_lost file), fun k first => ?_⟩
  obtain rfl : k = file := first.unique ⟨lost, reached.earlier⟩
  obtain ⟨first_eq, count_eq⟩ := reached.part_eq out.measured inside
  have short := (reached.lost_iff out.measured out.handed).mp lost
  rw [← out.length_take, ← out.length?_eq] at short
  dsimp only
  rw [gather_short holds out.there short, out.length_take, out.length?_eq, first_eq, count_eq,
    List.getD_eq_getElem?_getD, out.handed, Option.getD_some]

/-- Following a frame ends with the file that it ends in. -/
theorem gather_ends (holds : files.Holds (cut readable whole))
    (out : HandedOut files whole readable file data limit) (inside : offset ≤ data.length)
    (reached : Reached files.lengths readable start stop file offset (frameSize - received.length))
    (kept : ¬ Lost files.lengths readable start stop file)
    (ends : frameSize - received.length ≤ data.length - offset) (index left : Nat) :
    Followed files.lengths readable start stop index
      (gather index frameSize left files file offset received)
      (received ++ (data.drop offset).take (frameSize - received.length)) := by
  have none_lost := reached.none_lost out.measured inside kept ends
  rw [reached.lost_iff out.measured out.handed, Nat.min_eq_left ends, Nat.not_lt] at kept
  have same : ((data.take limit).drop offset).take (frameSize - received.length) =
      (data.drop offset).take (frameSize - received.length) := by
    rw [List.drop_take, List.take_take, Nat.min_eq_left kept]
  rw [← out.length_take] at kept
  obtain ⟨after, gather_eq⟩ := gather_within holds out.there kept index left
  rw [gather_eq, same]
  exact ⟨fun _ => ⟨rfl, rfl⟩, fun k first => absurd first.lost (none_lost k)⟩

/-- **The rest of a frame, or the first file that comes short.** Every file hands
out the front of what it held, and the frame is followed as far as they do. -/
theorem gather_shortened (holds : files.Holds (cut readable whole))
    (measured : files.lengths = whole.map List.length)
    (shorter : List.Forall₂ (· ≤ ·) readable files.lengths)
    (ahead : whole.drop file = data :: rest) (inside : offset ≤ data.length)
    (reached : Reached files.lengths readable start stop file offset (frameSize - received.length))
    (enough : frameSize - received.length ≤ (data :: rest).flatten.length - offset) (index : Nat) :
    Followed files.lengths readable start stop index
      (gather index frameSize rest.length files file offset received)
      (received ++ ((data :: rest).flatten.drop offset).take (frameSize - received.length)) := by
  induction rest generalizing data files file offset received with
  | nil =>
    obtain ⟨held, _⟩ := of_drop_eq_cons ahead
    obtain ⟨limit, out⟩ := exists_handedOut measured shorter held
    by_cases lost : Lost files.lengths readable start stop file
    · exact gather_lost holds out inside reached lost index _ _
    · simp only [List.flatten_cons, List.flatten_nil, List.append_nil] at enough ⊢
      exact gather_ends holds out inside reached lost enough index _
  | cons next rest ih =>
    obtain ⟨held, ahead'⟩ := of_drop_eq_cons ahead
    obtain ⟨limit, out⟩ := exists_handedOut measured shorter held
    by_cases lost : Lost files.lengths readable start stop file
    · exact gather_lost holds out inside reached lost index _ _
    by_cases ends : frameSize - received.length ≤ data.length - offset
    · rw [take_drop_flatten_cons data _ inside, Nat.sub_eq_zero_of_le ends, List.take_zero,
        List.append_nil]
      exact gather_ends holds out inside reached lost ends index _
    · -- what is handed out of this file reaches to its end, or to where it is read from
      have goes_on := Nat.lt_of_not_le ends
      have reached' := reached.next out.measured inside lost (Nat.le_of_lt goes_on)
      rw [reached.lost_iff out.measured out.handed, Nat.not_lt] at lost
      have limit_le := out.le
      have expected : min (frameSize - received.length) ((files.length? file).getD 0 - offset) ≤
          (data.take limit).length - offset := by
        rwa [out.length?_eq, out.length_take]
      obtain ⟨after, still, lengths_eq, gather_eq⟩ :=
        gather_beyond holds out.there expected (by rw [out.length_take]; omega) index rest.length
      have all : (data.take limit).drop offset = data.drop offset := by
        rw [List.drop_take]
        exact List.take_of_length_le (by rw [List.length_drop]; omega)
      have fill : (data.drop offset).take (frameSize - received.length) = data.drop offset :=
        List.take_of_length_le (by rw [List.length_drop]; omega)
      have left := left_after received data frameSize offset
      rw [List.flatten_cons, List.length_append] at enough
      have enough_left : frameSize - (received ++ data.drop offset).length ≤
          (next :: rest).flatten.length - 0 := by omega
      rw [← left, ← lengths_eq] at reached'
      have followed := ih still (lengths_eq.trans measured) (lengths_eq.symm ▸ shorter) ahead'
        (Nat.zero_le _) reached' enough_left
      rw [lengths_eq, List.drop_zero, left, List.append_assoc] at followed
      rw [List.length_cons, gather_eq, all, take_drop_flatten_cons data _ inside, fill]
      exact ⟨followed.whole, followed.short⟩

end

section
variable {σ η : Type} [ByteStream σ]

/-- A frame of files that come short is read, or the first of them is told. -/
theorem readFrame_shortened {r : Reader σ η} {files : FileSet σ} {whole : List Bytes}
    {readable : List Nat} {index : Nat} (laid : r.Laid files.lengths) (there : r.files = some files)
    (measured : files.lengths = whole.map List.length)
    (shorter : List.Forall₂ (· ≤ ·) readable files.lengths)
    (holds : files.Holds (cut readable whole)) (indexed : index < r.blockCount) :
    let start := index * r.frameSize
    let stop := (index + 1) * r.frameSize
    let part := segment files.lengths start stop
    ((∀ k, ¬ Lost files.lengths readable start stop k) →
      (r.readFrame index).result = .ok ((whole.flatten.drop start).take r.frameSize)) ∧
    ∀ k, FirstLost files.lengths readable start stop k →
      (r.readFrame index).result = .error (.size (.shortRead index k
        (readable.getD k 0 - (part k).first) ((part k).stop - (part k).first))) := by
  have covers : Covers files.lengths whole := measured ▸ covers_self whole
  obtain ⟨file, inner, data, placed, ahead, inside, enough, read, _⟩ :=
    readFrame_placed laid there covers indexed
  have frame_eq := (measured ▸ placed).drop_flatten
  rw [Nat.succ_mul]
  have followed : Followed files.lengths readable (index * r.frameSize)
      (index * r.frameSize + r.frameSize) index
      (gather index r.frameSize (whole.drop (file + 1)).length files file inner [])
      ((whole.flatten.drop (index * r.frameSize)).take r.frameSize) := by
    rw [frame_eq, ahead]
    exact gather_shortened holds measured shorter ahead inside
      (placed.reached readable r.frameSize) enough index
  refine ⟨fun kept => ?_, fun k first => ?_⟩
  · obtain ⟨result, received⟩ := followed.whole kept
    have full : ((whole.flatten.drop (index * r.frameSize)).take r.frameSize).length =
        r.buffer.size := by
      rw [frame_eq, ahead, List.length_take, List.length_drop, Nat.min_eq_left enough]
      rfl
    rw [read, result, received, contents_overwrite_full _ full]
    rfl
  · rw [read, followed.short k first]
    rfl

variable [BlockHandler η]

/-- What can become of a reader by calls, and by whatever happens to its files.
What was measured of them stays as it was. -/
inductive Disturbed (opened : Reader σ η) : Reader σ η → Prop
  | opened : Disturbed opened opened
  | call {r : Reader σ η} (operation : Operation η) (before : Disturbed opened r) :
      Disturbed opened (r.after operation)
  | change {r : Reader σ η} {files changed : FileSet σ} (before : Disturbed opened r)
      (there : r.files = some files) (measured : changed.lengths = files.lengths) :
      Disturbed opened { r with files := some changed }

/-- **Whatever happens to the files leaves the layout** as it was measured. -/
theorem disturbed_laid {lengths : List Nat} {opened r : Reader σ η} (laid : opened.Laid lengths)
    (measured : ∀ files ∈ opened.files, files.lengths = lengths) (disturbed : Disturbed opened r) :
    r.Laid lengths ∧ ∀ files ∈ r.files, files.lengths = lengths := by
  induction disturbed with
  | opened => exact ⟨laid, measured⟩
  | @call r operation _ ih =>
    have keeps := after_keeps r operation
    refine ⟨ih.1.keeps keeps, fun files there => ?_⟩
    obtain ⟨earlier, earlier_there, accessed⟩ := keeps.files files there
    exact accessed.lengths_eq.trans (ih.2 earlier earlier_there)
  | @change r files changed _ there same ih =>
    obtain ⟨laid, lengths_eq⟩ := ih
    refine ⟨laid.withFiles _, ?_⟩
    rintro _ ⟨⟩
    exact same.trans (lengths_eq files there)

/-- **Short files are always detected.** If every file still hands out the front
of what it held when it was measured, a frame is read just if each of its
segments is handed out to the end, and it is the frame of the measured layout
then. The first file that comes short is told otherwise, with how much of its
segment was read and how long the segment is. -/
theorem short_files_detected {files current : FileSet σ} {failLevel : Level} {handler : η}
    {opened r : Reader σ η} {whole : List Bytes} {readable : List Nat} {index : Nat}
    (ok : (openWith failLevel files handler).result = .ok opened) (disturbed : Disturbed opened r)
    (there : r.files = some current) (measured : files.lengths = whole.map List.length)
    (shorter : List.Forall₂ (· ≤ ·) readable files.lengths)
    (holds : current.Holds (cut readable whole)) (indexed : index < r.blockCount) :
    let start := index * r.frameSize
    let stop := (index + 1) * r.frameSize
    let part := segment files.lengths start stop
    let frame := (whole.flatten.drop start).take r.frameSize
    frame = (List.range whole.length).flatMap (fun k => (part k).bytes (whole.getD k [])) ∧
    (∀ read, (r.readFrame index).result = .ok read ↔
      (∀ k, ¬ Lost files.lengths readable start stop k) ∧ read = frame) ∧
    ((∃ k, Lost files.lengths readable start stop k) →
      ∃ k, FirstLost files.lengths readable start stop k ∧
        (r.readFrame index).result = .error (.size (.shortRead index k
          (readable.getD k 0 - (part k).first) ((part k).stop - (part k).first)))) := by
  obtain ⟨laid, start, start_eq, accessed⟩ := openWith_laid ok
  have opened_measured : ∀ now ∈ opened.files, now.lengths = files.lengths := by
    intro now now_there
    rw [start_eq, Option.mem_def, Option.some.injEq] at now_there
    exact now_there ▸ accessed.lengths_eq
  obtain ⟨laid, now_measured⟩ := disturbed_laid laid opened_measured disturbed
  have lengths_eq : current.lengths = files.lengths := now_measured current there
  rw [← lengths_eq] at laid measured shorter ⊢
  obtain ⟨kept_read, short_told⟩ := readFrame_shortened laid there measured shorter holds indexed
  intro start stop part frame
  refine ⟨?_, fun read => ⟨fun ok_read => ?_, ?_⟩, ?_⟩
  · have ordered : start ≤ stop := Nat.mul_le_mul_right _ (Nat.le_succ index)
    have size_eq : stop - start = r.frameSize := by
      simp only [start, stop, Nat.succ_mul, Nat.add_sub_cancel_left]
    have joined := flatMap_segments whole ordered
    rw [← measured, List.drop_take, size_eq] at joined
    exact joined.symm
  · have kept : ∀ k, ¬ Lost current.lengths readable start stop k := by
      intro k lost
      obtain ⟨k, first⟩ := lost.first
      rw [short_told k first] at ok_read
      cases ok_read
    rw [kept_read kept, Except.ok.injEq] at ok_read
    exact ⟨kept, ok_read.symm⟩
  · rintro ⟨kept, rfl⟩
    exact kept_read kept
  · rintro ⟨k, lost⟩
    obtain ⟨k, first⟩ := lost.first
    exact ⟨k, first, short_told k first⟩

end

/-- Two frames of three bytes in three files, of which the second one has the
last byte of the first frame. -/
def threeFiles (second : MemoryStream) : FileSet MemoryStream :=
  ⟨[⟨.ofBytes [0, 1], 2⟩, ⟨second, 1⟩, ⟨.ofBytes ([3, 4, 5] ++ Footer.plain 3 2), 195⟩]⟩

/-- A stream that has a byte, and does not hand it out. -/
def damaged : MemoryStream := { MemoryStream.ofBytes [2] with readable := some 0 }

set_option maxRecDepth 20000 in
theorem threeFiles_opens :
    ∃ opened, (openWith .error (threeFiles (.ofBytes [2])) NullHandler.mk).result = .ok opened ∧
      opened.frameSize = 3 ∧ opened.blockCount = 2 := by
  have evaluated : (openWith .error (threeFiles (.ofBytes [2]))
      NullHandler.mk).result.toOption.map (fun opened => (opened.frameSize, opened.blockCount)) =
      some (3, 2) := by cbv
  obtain ⟨opened, ok, evaluated⟩ := exists_ok_of_map evaluated
  obtain ⟨frameSize, blockCount⟩ := Prod.mk.inj evaluated
  exact ⟨opened, ok, frameSize, blockCount⟩

theorem threeFiles_holds :
    (threeFiles damaged).Holds
      (cut [2, 0, 195] [[0, 1], [2], [3, 4, 5] ++ Footer.plain 3 2]) := by
  have sound : damaged.Sound := ⟨rfl, rfl, nofun⟩
  have all : ([3, 4, 5] ++ Footer.plain 3 2).take 195 = [3, 4, 5] ++ Footer.plain 3 2 :=
    List.take_of_length_le (by rw [List.length_append, Footer.length_plain]; decide)
  refine .cons ⟨0, MemoryStream.standsAt_ofBytes _⟩ (.cons ⟨0, sound.standsAt⟩ (.cons ⟨0, ?_⟩ .nil))
  dsimp only
  rw [all]
  exact MemoryStream.standsAt_ofBytes _

/-- The second file stops handing out its byte after the recording was opened.
The first frame is lost with it, and the second one is not. -/
theorem short_files_detected_three_files :
    ∃ opened, (openWith .error (threeFiles (.ofBytes [2])) NullHandler.mk).result = .ok opened ∧
      (readFrame { opened with files := some (threeFiles damaged) } 0).result =
        .error (.size (.shortRead 0 1 0 1)) ∧
      (readFrame { opened with files := some (threeFiles damaged) } 1).result = .ok [3, 4, 5] := by
  obtain ⟨opened, ok, frameSize, blockCount⟩ := threeFiles_opens
  obtain ⟨_, files, there, accessed⟩ := openWith_laid ok
  let r := { opened with files := some (threeFiles damaged) }
  have disturbed : Disturbed opened r := .change .opened there accessed.lengths_eq.symm
  have lengths_eq : (threeFiles (.ofBytes [2])).lengths = [2, 1, 195] := rfl
  have measured : (threeFiles (.ofBytes [2])).lengths =
      [[0, 1], [2], [3, 4, 5] ++ Footer.plain 3 2].map List.length := by
    simp only [List.map_cons, List.length_append, Footer.length_plain]
    rfl
  have shorter : List.Forall₂ (· ≤ ·) [2, 0, 195] (threeFiles (.ofBytes [2])).lengths :=
    .cons (Nat.le_refl 2) (.cons (Nat.zero_le 1) (.cons (Nat.le_refl 195) .nil))
  have size_eq : r.frameSize = 3 := frameSize
  have two : r.blockCount = 2 := blockCount
  obtain ⟨_, _, short⟩ := short_files_detected ok disturbed rfl measured shorter threeFiles_holds
    (two.symm ▸ Nat.zero_lt_two)
  obtain ⟨_, read, _⟩ := short_files_detected ok disturbed rfl measured shorter threeFiles_holds
    (two.symm ▸ Nat.one_lt_two)
  rw [size_eq, lengths_eq] at short read
  refine ⟨opened, ok, ?_, (read _).mpr ⟨?_, rfl⟩⟩
  · have lost : FirstLost [2, 1, 195] [2, 0, 195] (0 * 3) ((0 + 1) * 3) 1 := by
      refine ⟨⟨by decide, by decide⟩, fun j before => ?_⟩
      obtain rfl := Nat.lt_one_iff.mp before
      exact fun lost => absurd lost.2 (by decide)
    obtain ⟨k, first, told⟩ := short ⟨1, lost.lost⟩
    obtain rfl := first.unique lost
    exact told
  · rintro (_ | _ | _ | k) ⟨some_bytes, missing⟩
    · exact absurd some_bytes (by decide)
    · exact absurd some_bytes (by decide)
    · exact absurd missing (by decide)
    · simp [segment] at some_bytes

end Reader

end RawReel
