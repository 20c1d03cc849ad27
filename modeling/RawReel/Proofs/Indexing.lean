import RawReel.Proofs.Layout

/-!
# How an index is built

The walk that builds an index carries its place from frame to frame, across the
ends of files.

* `Reached`, `reached_onTrack`: every state of the walk stands where its frames
  lead to in the joined files;
* `visited`, `mem_visited_iff`: the states that the walk goes through are just those;
* `walk_entries`: the frames that the walk puts down are those of a division;
* `size_build`, `get?_build`, `build_warning`: how many frames an index has, each
  of them, and what is reported of the bytes left over;
* `frame_before_footer`: an indexed frame ends in front of the footer;
* `walk_eq_visited`, `build_visits`: what the walk puts down in which of its states,
  and that no sum or difference in them leaves 64 bits;
* `build_flat`: the index as a division of the payload, with the same of every state
  that is reached.
-/

namespace RawReel

namespace IndexWalk

/-- The walk stands where its frames lead to, and has not left the payload. -/
structure OnTrack (lengths : List Nat) (total frameSize : Nat) (w : IndexWalk) : Prop where
  file_lt : w.file < lengths.length
  offset_eq : (lengths.take w.file).sum + w.offset = w.consumed
  consumed_eq : w.consumed = w.frames * frameSize
  consumed_le : w.consumed ≤ total

variable {lengths : List Nat} {total frameSize : Nat} {w : IndexWalk}

theorem ended?_eq_some {length : Nat} (ended : w.ended? lengths = some length) :
    w.file + 1 < lengths.length ∧ lengths[w.file]? = some length ∧ length ≤ w.offset := by
  have next := ended?_lt ended
  rw [ended?, if_pos next, Option.filter_eq_some_iff] at ended
  exact ⟨next, ended.1, of_decide_eq_true ended.2⟩

/-- A walk that has nothing to pass stands inside its file, or in the last one. -/
theorem lt_of_ended?_eq_none {length : Nat} (settled : w.ended? lengths = none)
    (there : lengths[w.file]? = some length) (next : w.file + 1 < lengths.length) :
    w.offset < length := by
  rw [ended?, if_pos next, there] at settled
  by_contra past
  rw [Option.filter_some, if_pos (by simpa using past)] at settled
  cases settled

theorem onTrack_start (nonempty : lengths ≠ []) : OnTrack lengths total frameSize start where
  file_lt := List.length_pos_of_ne_nil nonempty
  offset_eq := rfl
  consumed_eq := (Nat.zero_mul frameSize).symm
  consumed_le := Nat.zero_le total

theorem OnTrack.pass (onTrack : OnTrack lengths total frameSize w) {length : Nat}
    (ended : w.ended? lengths = some length) : OnTrack lengths total frameSize (w.pass length) where
  file_lt := (ended?_eq_some ended).1
  offset_eq := by
    obtain ⟨_, there, le⟩ := ended?_eq_some ended
    have passed := sum_take_succ there
    have := onTrack.offset_eq
    simp only [IndexWalk.pass]
    omega
  consumed_eq := onTrack.consumed_eq
  consumed_le := onTrack.consumed_le

theorem OnTrack.step (onTrack : OnTrack lengths total frameSize w)
    (enough : frameSize ≤ total - w.consumed) :
    OnTrack lengths total frameSize (w.step frameSize) where
  file_lt := onTrack.file_lt
  offset_eq := by
    have := onTrack.offset_eq
    simp only [IndexWalk.step]
    omega
  consumed_eq := by
    simp only [IndexWalk.step, Nat.succ_mul, onTrack.consumed_eq]
  consumed_le := by
    have := onTrack.consumed_le
    simp only [IndexWalk.step]
    omega

/-- Between two frames, the walk stands at the byte that the next one starts with. -/
theorem OnTrack.placed (onTrack : OnTrack lengths total frameSize w)
    (settled : w.ended? lengths = none) :
    Placed lengths (w.frames * frameSize) w.file w.offset where
  file_lt := onTrack.file_lt
  offset_eq := onTrack.offset_eq.trans onTrack.consumed_eq
  inside := lt_of_ended?_eq_none settled

/-- The states that the walk over files of the given lengths goes through. -/
inductive Reached (lengths : List Nat) (total frameSize : Nat) : IndexWalk → Prop
  | start (nonempty : lengths ≠ []) : Reached lengths total frameSize start
  | pass {w : IndexWalk} {length : Nat} (before : Reached lengths total frameSize w)
      (ended : w.ended? lengths = some length) : Reached lengths total frameSize (w.pass length)
  | step {w : IndexWalk} (before : Reached lengths total frameSize w)
      (settled : w.ended? lengths = none) (enough : frameSize ≤ total - w.consumed) :
      Reached lengths total frameSize (w.step frameSize)

/-- **Every state of the walk is on track.** -/
theorem reached_onTrack (reached : Reached lengths total frameSize w) :
    OnTrack lengths total frameSize w := by
  induction reached with
  | start nonempty => exact onTrack_start nonempty
  | pass _ ended ih => exact ih.pass ended
  | step _ _ enough ih => exact ih.step enough

/-- The states that a walk goes through, from the one that it stands in to the one that it
ends in. -/
def visited (lengths : List Nat) (total frameSize : Nat) (positive : 0 < frameSize)
    (w : IndexWalk) : List IndexWalk :=
  match _h : w.ended? lengths with
  | some length => w :: visited lengths total frameSize positive (w.pass length)
  | none =>
    if total - w.consumed < frameSize then [w]
    else w :: visited lengths total frameSize positive (w.step frameSize)
termination_by (total - w.consumed, lengths.length - w.file)
decreasing_by
  · exact Prod.Lex.right _ (files_left_lt _h)
  · exact Prod.Lex.left _ _ (payload_left_lt positive ‹_›)

section Visited

variable (positive : 0 < frameSize)

theorem visited_pass {length : Nat} (ended : w.ended? lengths = some length) :
    visited lengths total frameSize positive w =
      w :: visited lengths total frameSize positive (w.pass length) := by
  rw [visited]
  split
  · next found => cases ended.symm.trans found; rfl
  · next settled => cases ended.symm.trans settled

theorem visited_last (settled : w.ended? lengths = none) (short : total - w.consumed < frameSize) :
    visited lengths total frameSize positive w = [w] := by
  rw [visited]
  split
  · next ended => cases ended.symm.trans settled
  · rw [if_pos short]

theorem visited_step (settled : w.ended? lengths = none)
    (enough : ¬total - w.consumed < frameSize) :
    visited lengths total frameSize positive w =
      w :: visited lengths total frameSize positive (w.step frameSize) := by
  rw [visited]
  split
  · next ended => cases ended.symm.trans settled
  · rw [if_neg enough]

theorem mem_visited_self (w : IndexWalk) : w ∈ visited lengths total frameSize positive w := by
  unfold visited
  split
  · exact List.mem_cons_self
  · split <;> exact List.mem_cons_self

theorem visited_ne_nil (w : IndexWalk) : visited lengths total frameSize positive w ≠ [] :=
  List.ne_nil_of_mem (mem_visited_self positive w)

/-- A walk goes through what it would go through from any of its states on. -/
theorem mem_visited_trans {u v : IndexWalk} (later : u ∈ visited lengths total frameSize positive v)
    (through : v ∈ visited lengths total frameSize positive w) :
    u ∈ visited lengths total frameSize positive w := by
  fun_induction visited lengths total frameSize positive w with
  | case1 w length ended ih =>
    obtain rfl | behind := List.mem_cons.mp through
    · rwa [visited_pass positive ended] at later
    · exact List.mem_cons_of_mem _ (ih behind)
  | case2 w settled short =>
    obtain rfl := List.mem_singleton.mp through
    rwa [visited_last positive settled short] at later
  | case3 w settled enough ih =>
    obtain rfl | behind := List.mem_cons.mp through
    · rwa [visited_step positive settled enough] at later
    · exact List.mem_cons_of_mem _ (ih behind)

theorem reached_of_mem_visited {v : IndexWalk} (reached : Reached lengths total frameSize w)
    (through : v ∈ visited lengths total frameSize positive w) :
    Reached lengths total frameSize v := by
  fun_induction visited lengths total frameSize positive w with
  | case1 w length ended ih =>
    obtain rfl | behind := List.mem_cons.mp through
    · exact reached
    · exact ih (reached.pass ended) behind
  | case2 w settled short => exact List.mem_singleton.mp through ▸ reached
  | case3 w settled enough ih =>
    obtain rfl | behind := List.mem_cons.mp through
    · exact reached
    · exact ih (reached.step settled (Nat.le_of_not_lt enough)) behind

/-- **The walk goes through the states that are reached**, and through no others. -/
theorem mem_visited_iff (nonempty : lengths ≠ []) :
    w ∈ visited lengths total frameSize positive start ↔ Reached lengths total frameSize w := by
  constructor
  · exact reached_of_mem_visited positive (.start nonempty)
  · intro reached
    induction reached with
    | start => exact mem_visited_self positive _
    | @pass w length _ ended ih =>
      refine mem_visited_trans positive ?_ ih
      rw [visited_pass positive ended]
      exact List.mem_cons_of_mem _ (mem_visited_self positive _)
    | @step w _ settled enough ih =>
      refine mem_visited_trans positive ?_ ih
      rw [visited_step positive settled (Nat.not_lt.mpr enough)]
      exact List.mem_cons_of_mem _ (mem_visited_self positive _)

end Visited

end IndexWalk

open IndexWalk

namespace BlockIndex

theorem payload_eq (lengths : List Nat) (footerSize : Nat) :
    payload lengths footerSize = lengths.sum - footerSize := by
  rw [payload, List.sum_eq_foldr]

section
variable {lengths : List Nat} {total frameSize : Nat} {w : IndexWalk}

/-- The frame that a walk comes to is the one with the number of the frames behind it. -/
theorem describeFrame_of_settled (onTrack : OnTrack lengths total frameSize w)
    (settled : w.ended? lengths = none) (fpsX1000 : Nat) :
    ⟨w.file, w.offset, BlockDescriptor.timestamp w.frames fpsX1000⟩ =
      describeFrame lengths frameSize fpsX1000 w.frames := by
  have nonempty : lengths ≠ [] := List.ne_nil_of_length_pos (Nat.zero_lt_of_lt onTrack.file_lt)
  have found := place_placed nonempty (w.frames * frameSize)
  obtain ⟨file_eq, offset_eq⟩ := (onTrack.placed settled).unique found
  have place_eq : place lengths (w.frames * frameSize) = (w.file, w.offset) :=
    Prod.ext file_eq.symm offset_eq.symm
  rw [describeFrame, place_eq]

/-- **The walk puts down frame after frame** until less than a frame is left. -/
theorem walk_entries (fpsX1000 : Nat) (positive : 0 < frameSize) {entries : Array BlockDescriptor}
    (reached : Reached lengths total frameSize w)
    (sofar : entries = (Array.range w.frames).map (describeFrame lengths frameSize fpsX1000)) :
    ∃ last, Reached lengths total frameSize last ∧ total - last.consumed < frameSize ∧
      walk lengths total frameSize fpsX1000 positive w entries =
        (last, (Array.range last.frames).map (describeFrame lengths frameSize fpsX1000)) := by
  fun_induction walk lengths total frameSize fpsX1000 positive w entries with
  | case1 w entries length ended ih => exact ih (reached.pass ended) sofar
  | case2 w entries settled short => exact ⟨w, reached, short, by rw [sofar]⟩
  | case3 w entries settled enough ih =>
    apply ih (reached.step settled (Nat.le_of_not_lt enough))
    rw [describeFrame_of_settled (reached_onTrack reached) settled, sofar]
    simp only [IndexWalk.step, Array.range_succ, Array.map_append, Array.push_eq_append,
      List.map_toArray, List.map_cons, List.map_nil]

/-- From the start of the files on, the walk divides the payload into frames. -/
theorem walk_start (total fpsX1000 : Nat) (positive : 0 < frameSize) (nonempty : lengths ≠ []) :
    ∃ last, total - last.consumed = total % frameSize ∧
      walk lengths total frameSize fpsX1000 positive .start #[] =
        (last,
          (Array.range (total / frameSize)).map (describeFrame lengths frameSize fpsX1000)) := by
  have at_start : Reached lengths total frameSize start := .start nonempty
  have nothing_yet :
      #[] = (Array.range start.frames).map (describeFrame lengths frameSize fpsX1000) := by
    simp [start]
  obtain ⟨last, reached, short, walked⟩ := walk_entries fpsX1000 positive at_start nothing_yet
  have onTrack := reached_onTrack reached
  have division : total / frameSize = last.frames ∧
      total % frameSize = total - last.consumed := by
    rw [Nat.div_mod_unique positive, Nat.mul_comm, ← onTrack.consumed_eq]
    exact ⟨Nat.sub_add_cancel onTrack.consumed_le, short⟩
  exact ⟨last, division.2.symm, by rw [walked, division.1]⟩

/-- The frames that a walk puts down where it has no file to pass, in front of its last
state. -/
def putDown (lengths : List Nat) (fpsX1000 : Nat) (states : List IndexWalk) :
    List BlockDescriptor :=
  (states.dropLast.filter fun w => (w.ended? lengths).isNone).map fun w =>
    ⟨w.file, w.offset, BlockDescriptor.timestamp w.frames fpsX1000⟩

theorem putDown_of_ended {w : IndexWalk} {length : Nat} {later : List IndexWalk}
    (ended : w.ended? lengths = some length) (more : later ≠ []) (fpsX1000 : Nat) :
    putDown lengths fpsX1000 (w :: later) = putDown lengths fpsX1000 later := by
  simp [putDown, List.dropLast_cons_of_ne_nil more, ended]

theorem putDown_of_settled {w : IndexWalk} {later : List IndexWalk}
    (settled : w.ended? lengths = none) (more : later ≠ []) (fpsX1000 : Nat) :
    putDown lengths fpsX1000 (w :: later) =
      ⟨w.file, w.offset, BlockDescriptor.timestamp w.frames fpsX1000⟩ ::
        putDown lengths fpsX1000 later := by
  simp [putDown, List.dropLast_cons_of_ne_nil more, settled]

/-- **The walk is what it goes through**: it ends in the last of its states, and has put
down their frames. -/
theorem walk_eq_visited (fpsX1000 : Nat) (positive : 0 < frameSize) (w : IndexWalk)
    (entries : Array BlockDescriptor) :
    ∃ last, (visited lengths total frameSize positive w).getLast? = some last ∧
      walk lengths total frameSize fpsX1000 positive w entries =
        (last, entries ++
          (putDown lengths fpsX1000 (visited lengths total frameSize positive w)).toArray) := by
  fun_induction walk lengths total frameSize fpsX1000 positive w entries with
  | case1 w entries length ended ih =>
    obtain ⟨last, last_eq, walked⟩ := ih
    have more : visited lengths total frameSize positive (w.pass length) ≠ [] :=
      visited_ne_nil positive _
    refine ⟨last, ?_, ?_⟩
    · rw [visited_pass positive ended, List.getLast?_cons, last_eq, Option.getD_some]
    · rw [visited_pass positive ended, putDown_of_ended ended more, walked]
  | case2 w entries settled short =>
    refine ⟨w, ?_, ?_⟩
    · rw [visited_last positive settled short, List.getLast?_singleton]
    · rw [visited_last positive settled short]
      rfl
  | case3 w entries settled enough ih =>
    obtain ⟨last, last_eq, walked⟩ := ih
    have more : visited lengths total frameSize positive (w.step frameSize) ≠ [] :=
      visited_ne_nil positive _
    refine ⟨last, ?_, ?_⟩
    · rw [visited_step positive settled enough, List.getLast?_cons, last_eq, Option.getD_some]
    · rw [visited_step positive settled enough, putDown_of_settled settled more, walked]
      simp

end

section
variable (lengths : List Nat) (footerSize frameSize fpsX1000 : Nat)

/-- **What building an index gives.** The frames are those of a division, and what is left over
is its remainder. -/
theorem build_eq :
    build lengths footerSize frameSize fpsX1000 =
      if lengths = [] ∨ frameSize = 0 then ⟨empty, []⟩
      else
        let total := payload lengths footerSize
        let index : BlockIndex :=
          ⟨(Array.range (total / frameSize)).map (describeFrame lengths frameSize fpsX1000)⟩
        ⟨index,
          index.toList.mapIdx (fun n entry => .blockIndexed n entry)
            ++ (if total % frameSize > 0 then [.trailingBytes (total % frameSize)] else [])
            ++ [.indexed index.size lengths.length]⟩ := by
  unfold build
  by_cases nothing : lengths = [] ∨ frameSize = 0
  · rw [dif_pos nothing, if_pos nothing]
  · have positive : 0 < frameSize := Nat.pos_of_ne_zero fun zero => nothing (.inr zero)
    have nonempty : lengths ≠ [] := fun none => nothing (.inl none)
    obtain ⟨last, left, walked⟩ :=
      walk_start (payload lengths footerSize) fpsX1000 positive nonempty
    rw [dif_neg nothing, if_neg nothing]
    simp only [walked, left]

theorem size_build :
    (build lengths footerSize frameSize fpsX1000).value.size =
      payload lengths footerSize / frameSize := by
  rw [build_eq]
  split
  · next nothing => rcases nothing with rfl | rfl <;> simp [payload, empty, size]
  · simp [size]

theorem get?_build (n : Nat) :
    (build lengths footerSize frameSize fpsX1000).value.get? n =
      if n < payload lengths footerSize / frameSize then
        some (describeFrame lengths frameSize fpsX1000 n)
      else none := by
  rw [build_eq]
  split
  · next nothing => rcases nothing with rfl | rfl <;> simp [payload, empty, get?]
  · simp [get?, Array.getElem?_range]

end

end BlockIndex

/-- **No frame reaches into the footer.** -/
theorem frame_before_footer {lengths : List Nat} {footerSize frameSize fpsX1000 n : Nat}
    (indexed : n < (BlockIndex.build lengths footerSize frameSize fpsX1000).value.size) :
    0 < frameSize ∧ (n + 1) * frameSize + footerSize ≤ lengths.sum := by
  rw [BlockIndex.size_build] at indexed
  have positive : 0 < frameSize := by
    apply Nat.pos_of_ne_zero
    rintro rfl
    simp at indexed
  have fits := (Nat.le_div_iff_mul_le positive).mp indexed
  have some_frame : frameSize ≤ (n + 1) * frameSize := Nat.le_mul_of_pos_left _ n.succ_pos
  rw [BlockIndex.payload_eq, Nat.succ_eq_add_one] at fits
  exact ⟨positive, by omega⟩

/-- None of the sums and differences that the next turn of the walk takes leaves the range of a
64-bit number. -/
structure IndexWalk.Exact (lengths : List Nat) (total frameSize : Nat) (w : IndexWalk) : Prop where
  file_lt : w.file < lengths.length
  pass : ∀ length, w.ended? lengths = some length →
    length ≤ w.offset ∧ w.file + 1 < lengths.length
  left : w.consumed ≤ total
  step : w.ended? lengths = none → frameSize ≤ total - w.consumed →
    w.offset + frameSize < 2 ^ 64 ∧ w.consumed + frameSize < 2 ^ 64 ∧ w.frames + 1 < 2 ^ 64

theorem IndexWalk.OnTrack.exact {lengths : List Nat} {total frameSize : Nat} {w : IndexWalk}
    (onTrack : OnTrack lengths total frameSize w) (positive : 0 < frameSize)
    (fits : total < 2 ^ 64) : Exact lengths total frameSize w where
  file_lt := onTrack.file_lt
  pass := by
    intro length ended
    obtain ⟨next, _, le⟩ := ended?_eq_some ended
    exact ⟨le, next⟩
  left := onTrack.consumed_le
  step := by
    intro _ enough
    have offset_eq := onTrack.offset_eq
    have consumed_le := onTrack.consumed_le
    have frames_le : w.frames ≤ w.consumed := by
      rw [onTrack.consumed_eq]
      exact Nat.le_mul_of_pos_right _ positive
    omega

namespace BlockIndex

section
variable {lengths : List Nat} {footerSize frameSize fpsX1000 n : Nat} {entry : BlockDescriptor}

/-- An entry tells where its frame starts in the joined files. -/
theorem build_placed
    (found : (build lengths footerSize frameSize fpsX1000).value.get? n = some entry) :
    Placed lengths (n * frameSize) entry.file entry.offset := by
  have nonempty : lengths ≠ [] := by
    rintro rfl
    cases found
  rw [get?_build] at found
  split at found
  · cases found
    exact place_placed nonempty _
  · cases found

/-- The one thing of any urgency that is reported is what is left over. -/
theorem build_warning (positive : 0 < frameSize) :
    (build lengths footerSize frameSize fpsX1000).log.filter (fun d => d.level ≤ .warn) =
      let left := payload lengths footerSize % frameSize
      if 0 < left then [.trailingBytes left] else [] := by
  have entries (index : BlockIndex) :
      (index.toList.mapIdx fun n entry => Diagnostic.blockIndexed n entry).filter
        (fun d => d.level ≤ .warn) = [] := by
    rw [List.filter_eq_nil_iff]
    intro d among
    obtain ⟨n, _, rfl⟩ := List.mem_mapIdx.mp among
    exact Bool.false_ne_true
  rw [build_eq]
  by_cases none : lengths = []
  · subst none
    simp [payload]
  · have indexable : ¬ (lengths = [] ∨ frameSize = 0) := not_or.mpr ⟨none, by omega⟩
    rw [if_neg indexable]
    simp only [List.filter_append, entries, List.nil_append]
    split <;> rfl

end

/-- **The states that an index is built through.** Its entries are the frames put down in
them, and what is taken and added in each of them stays within 64 bits. -/
theorem build_visits {lengths : List Nat} {footerSize frameSize fpsX1000 : Nat}
    (nonempty : lengths ≠ [])
    (positive : 0 < frameSize) (fits : lengths.sum < 2 ^ 64) :
    let total := payload lengths footerSize
    let states := visited lengths total frameSize positive start
    (build lengths footerSize frameSize fpsX1000).value.toList =
        putDown lengths fpsX1000 states ∧
      ∀ w ∈ states, w.Exact lengths total frameSize := by
  intro total states
  constructor
  · have indexable : ¬(lengths = [] ∨ frameSize = 0) := not_or.mpr ⟨nonempty, by omega⟩
    obtain ⟨last, -, walked⟩ :=
      @walk_eq_visited lengths total frameSize fpsX1000 positive start #[]
    unfold build
    rw [dif_neg indexable]
    simp only [total, walked, toList, Array.toList_append, List.nil_append, states]
  · intro w through
    have reached := (mem_visited_iff positive nonempty).mp through
    have within : total < 2 ^ 64 := by
      have total_eq : total = lengths.sum - footerSize := payload_eq lengths footerSize
      omega
    exact (reached_onTrack reached).exact positive within

/-- **The index is a plain division.** Frame after frame of the payload, which is
all files joined without the footer at their end, has one entry, which tells the
file and the offset that the frame starts at; what is left over is reported. No
sum or difference that is taken on the way leaves the range of 64 bits. -/
theorem build_flat {lengths : List Nat} {footerSize frameSize fpsX1000 : Nat}
    (positive : 0 < frameSize) (fits : lengths.sum < 2 ^ 64) :
    let built := build lengths footerSize frameSize fpsX1000
    let total := lengths.sum - footerSize
    built.value.size = total / frameSize ∧
    (∀ n < total / frameSize, ∃ entry length, built.value.get? n = some entry ∧
      lengths[entry.file]? = some length ∧ entry.offset < length ∧
      (lengths.take entry.file).sum + entry.offset = n * frameSize ∧
      n * frameSize + frameSize ≤ total ∧
      ∀ k other, lengths[k]? = some other → (lengths.take k).sum ≤ n * frameSize →
        n * frameSize < (lengths.take k).sum + other → k = entry.file) ∧
    (∀ m n earlier later, m < n → built.value.get? m = some earlier →
      built.value.get? n = some later →
      earlier.file < later.file ∨ earlier.file = later.file ∧ earlier.offset < later.offset) ∧
    built.log.filter (fun d => d.level ≤ .warn) =
      (if 0 < total % frameSize then [.trailingBytes (total % frameSize)] else []) ∧
    ∀ w, IndexWalk.Reached lengths total frameSize w → w.Exact lengths total frameSize := by
  intro built total
  have payload_eq := payload_eq lengths footerSize
  refine ⟨?_, ?_, ?_, ?_, ?_⟩
  · rw [size_build, payload_eq]
  · intro n indexed
    obtain ⟨entry, found⟩ : ∃ entry, built.value.get? n = some entry := by
      rw [get?_build, payload_eq, if_pos indexed]
      exact ⟨_, rfl⟩
    have placed := build_placed found
    have ends : n * frameSize + frameSize ≤ total := by
      rw [← Nat.succ_mul]
      exact (Nat.le_div_iff_mul_le positive).mp indexed
    have there := List.getElem?_eq_getElem placed.file_lt
    have within : n * frameSize < lengths.sum := by omega
    refine ⟨entry, _, found, there, placed.inner_lt there within, placed.offset_eq, ends, ?_⟩
    intro k other at_k starts before_end
    exact ((Placed.of_within at_k starts before_end).unique placed).1
  · intro m n earlier later before found found'
    have starts := Nat.mul_lt_mul_of_pos_right before positive
    exact (build_placed found).lt (build_placed found') starts
  · rw [build_warning positive, payload_eq]
  · intro w reached
    exact (reached_onTrack reached).exact positive (by omega)

/-- Four files, the second of them empty, with three bytes of footer and one byte
that belongs to no frame. -/
theorem build_flat_four_files :
    let built := build [3, 0, 2, 7] 3 4 25000
    built.value.size = 2 ∧ (∃ entry, built.value.get? 1 = some entry ∧ entry.file = 2 ∧
      entry.offset = 1) ∧ built.log.filter (fun d => d.level ≤ .warn) = [.trailingBytes 1] ∧
      (IndexWalk.mk 2 1 4 1).Exact [3, 0, 2, 7] 9 4 := by
  obtain ⟨count, entries, _, warned, exact⟩ :=
    @build_flat [3, 0, 2, 7] 3 4 25000 (by decide) (by decide)
  obtain ⟨entry, _, found, _, _, starts, _, only⟩ := entries 1 (by decide)
  have file_eq : 2 = entry.file := only 2 2 rfl (by decide) (by decide)
  rw [← file_eq] at starts
  have first : IndexWalk.Reached [3, 0, 2, 7] 9 4 (IndexWalk.start.step 4) :=
    .step (.start (by decide)) (by decide) (by decide)
  have second : IndexWalk.Reached [3, 0, 2, 7] 9 4 ((IndexWalk.start.step 4).pass 3) :=
    .pass first (by decide)
  have third : IndexWalk.Reached [3, 0, 2, 7] 9 4 (((IndexWalk.start.step 4).pass 3).pass 0) :=
    .pass second (by decide)
  refine ⟨count, ⟨entry, found, file_eq.symm, ?_⟩, warned, exact _ third⟩
  simp at starts
  omega

end BlockIndex

end RawReel
