import Mathlib.Data.Nat.Find
import RawReel.Proofs.Timestamps

/-!
# Finding a frame by its time

* `search_eq`: halving the index ends between the entries before a time and the
  others;
* `Ordered.leastNotBefore`: if times never decrease, the lookup gives the first
  entry that is not before a time;
* `quotient_succ`: from frame to frame, the time grows by the length of a frame,
  rounded down or up;
* `Increasing.positionAt?_time`, `Ordered.positionAt?_since`: an entry is found by
  its time, and from any time since the entry before it;
* `lookup_inverts_times`: in an index as it is built, the lookup leads from the
  time of a frame, and from any time since the frame before it, to the frame.
-/

namespace RawReel.BlockIndex

/-! ## Halving -/

/-- There is an entry `n`, and it is shown before time `t`. -/
def shownBefore (index : BlockIndex) (t : UInt64) (n : Nat) : Bool :=
  match index.entries[n]? with
  | some entry => entry.timestampNs < t
  | none => false

theorem shownBefore_iff {index : BlockIndex} {t : UInt64} {n : Nat} :
    index.shownBefore t n = true ↔
      ∃ entry, index.get? n = some entry ∧ entry.timestampNs < t := by
  unfold shownBefore get?
  cases index.entries[n]? with
  | none => simp
  | some entry => simp

/-- Just the first `p` entries are shown before time `t`. -/
def Parts (index : BlockIndex) (t : UInt64) (p : Nat) : Prop :=
  ∀ n, index.shownBefore t n = true ↔ n < p

section
variable {index : BlockIndex} {t : UInt64} {p : Nat}

theorem Parts.lt_iff (parts : index.Parts t p) {n : Nat} {entry : BlockDescriptor}
    (there : index.get? n = some entry) : entry.timestampNs < t ↔ n < p := by
  rw [← parts n, shownBefore_iff]
  constructor
  · intro before
    exact ⟨entry, there, before⟩
  · rintro ⟨other, there', before⟩
    rw [there, Option.some.injEq] at there'
    exact there' ▸ before

theorem search_zero (base : Nat) :
    index.search t base 0 = if index.shownBefore t base then base + 1 else base := by
  rw [search]
  rfl

theorem search_of_pos {size : Nat} (positive : 0 < size) (base : Nat) :
    index.search t base size =
      let half := (size + 1) / 2
      index.search t (if index.shownBefore t (base + half) then base + half else base)
        (size - half) := by
  rw [search, if_neg (Nat.ne_of_gt positive)]
  rfl

/-- **Halving finds the place** where the entries before a time end, if that place
is in the range that is halved. -/
theorem search_eq (parts : index.Parts t p) {base size : Nat} (from_base : base ≤ p)
    (within : p ≤ base + size + 1) : index.search t base size = p := by
  -- What is kept of the range in each turn has the place in it.
  induction size using Nat.strongRecOn generalizing base with
  | ind size ih =>
    rcases Nat.eq_zero_or_pos size with rfl | positive
    · rw [search_zero]
      by_cases before : index.shownBefore t base = true
      · have := (parts base).mp before
        rw [if_pos before]
        omega
      · have := mt (parts base).mpr before
        rw [if_neg before]
        omega
    · rw [search_of_pos positive]
      by_cases before : index.shownBefore t (base + (size + 1) / 2) = true
      · have := (parts _).mp before
        simp only [if_pos before]
        apply ih <;> omega
      · have := mt (parts _).mpr before
        simp only [if_neg before]
        apply ih <;> omega

theorem positionAt?_of_parts (parts : index.Parts t p) (le : p ≤ index.size) :
    index.positionAt? t = if p < index.size then some p else none := by
  unfold positionAt?
  by_cases empty : index.size = 0
  · rw [if_pos empty, if_neg (by omega)]
  · have found : index.search t 0 (index.size - 1) = p :=
      search_eq parts (Nat.zero_le p) (by omega)
    rw [if_neg empty, found]

end

/-! ## The first entry that is not before a time -/

/-- The lookup gives the first entry that is not before a time, and nothing just if
all of them are. A later time never leads to an earlier entry. -/
structure LeastNotBefore (index : BlockIndex) : Prop where
  some_iff : ∀ t i, index.positionAt? t = some i ↔
    (∃ entry, index.get? i = some entry ∧ t ≤ entry.timestampNs) ∧
    ∀ j earlier, j < i → index.get? j = some earlier → earlier.timestampNs < t
  none_iff : ∀ t, index.positionAt? t = none ↔
    ∀ j entry, index.get? j = some entry → entry.timestampNs < t
  mono : ∀ t t', t ≤ t' →
    (index.positionAt? t).getD index.size ≤ (index.positionAt? t').getD index.size

theorem Ordered.exists_parts {index : BlockIndex} (ordered : index.Ordered) (t : UInt64) :
    ∃ p ≤ index.size, index.Parts t p := by
  have past_end : index.shownBefore t index.size = false := by
    rw [← Bool.not_eq_true, shownBefore_iff]
    rintro ⟨entry, found, _⟩
    exact Nat.lt_irrefl _ (lt_size_of_get? found)
  have stops : ∃ n, index.shownBefore t n = false := ⟨_, past_end⟩
  refine ⟨Nat.find stops, Nat.find_min' stops past_end, ?_⟩
  intro n
  constructor
  · intro before
    by_contra past
    obtain ⟨later, found', lt⟩ := shownBefore_iff.mp before
    have le : Nat.find stops ≤ n := Nat.le_of_not_lt past
    obtain ⟨first, found⟩ := exists_get? (Nat.lt_of_le_of_lt le (lt_size_of_get? found'))
    have first_le := ordered _ n first later le found found'
    have first_before : index.shownBefore t (Nat.find stops) = true :=
      shownBefore_iff.mpr ⟨first, found, UInt64.lt_of_le_of_lt first_le lt⟩
    rw [Nat.find_spec stops] at first_before
    cases first_before
  · intro lt
    exact Bool.eq_true_of_not_eq_false (Nat.find_min stops lt)

theorem Parts.mono {index : BlockIndex} {t t' : UInt64} {p p' : Nat} (parts : index.Parts t p)
    (parts' : index.Parts t' p') (le : t ≤ t') : p ≤ p' := by
  by_contra less
  have last : p' < p := Nat.lt_of_not_le less
  obtain ⟨entry, found, lt⟩ := shownBefore_iff.mp ((parts p').mpr last)
  exact Nat.lt_irrefl _ ((parts'.lt_iff found).mp (UInt64.lt_of_lt_of_le lt le))

/-- **In order of time, the lookup finds the first entry** that is not before a time. -/
theorem Ordered.leastNotBefore {index : BlockIndex} (ordered : index.Ordered) :
    index.LeastNotBefore where
  some_iff := by
    intro t i
    obtain ⟨p, le, parts⟩ := ordered.exists_parts t
    rw [positionAt?_of_parts parts le]
    constructor
    · intro found
      split at found
      · next lt =>
        cases found
        obtain ⟨entry, there⟩ := exists_get? lt
        refine ⟨⟨entry, there, ?_⟩, ?_⟩
        · apply UInt64.not_lt.mp
          intro before
          exact Nat.lt_irrefl _ ((parts.lt_iff there).mp before)
        · intro j earlier j_lt at_j
          exact (parts.lt_iff at_j).mpr j_lt
      · cases found
    · rintro ⟨⟨entry, there, not_before⟩, all_before⟩
      have i_lt := lt_size_of_get? there
      have p_le : p ≤ i := by
        apply Nat.le_of_not_lt
        intro past
        exact UInt64.not_lt.mpr not_before ((parts.lt_iff there).mpr past)
      have i_le : i ≤ p := by
        apply Nat.le_of_not_lt
        intro less
        obtain ⟨first, at_p⟩ := exists_get? (Nat.lt_trans less i_lt)
        exact Nat.lt_irrefl _ ((parts.lt_iff at_p).mp (all_before p first less at_p))
      obtain rfl : p = i := Nat.le_antisymm p_le i_le
      rw [if_pos i_lt]
  none_iff := by
    intro t
    obtain ⟨p, le, parts⟩ := ordered.exists_parts t
    rw [positionAt?_of_parts parts le]
    constructor
    · intro nothing j entry there
      split at nothing
      · cases nothing
      · next all =>
        have j_lt : j < p := Nat.lt_of_lt_of_le (lt_size_of_get? there) (Nat.le_of_not_lt all)
        exact (parts.lt_iff there).mpr j_lt
    · intro all_before
      have not_lt : ¬ p < index.size := by
        intro lt
        obtain ⟨entry, there⟩ := exists_get? lt
        exact Nat.lt_irrefl _ ((parts.lt_iff there).mp (all_before p entry there))
      rw [if_neg not_lt]
  mono := by
    intro t t' le_time
    obtain ⟨p, le, parts⟩ := ordered.exists_parts t
    obtain ⟨p', le', parts'⟩ := ordered.exists_parts t'
    have place {q : Nat} (q_le : q ≤ index.size) :
        (if q < index.size then some q else none).getD index.size = q := by
      split
      · rfl
      · simp only [Option.getD_none]
        omega
    rw [positionAt?_of_parts parts le, positionAt?_of_parts parts' le', place le, place le']
    exact parts.mono parts' le_time

/-! ## Times that follow each other -/

/-- From frame to frame, the time grows by the length of a frame, rounded down or up. -/
theorem quotient_succ {fpsX1000 : Nat} (positive : 0 < fpsX1000) (n : Nat) :
    quotient fpsX1000 (n + 1) = quotient fpsX1000 n + 10 ^ 12 / fpsX1000 ∨
    quotient fpsX1000 (n + 1) =
      quotient fpsX1000 n + (10 ^ 12 + fpsX1000 - 1) / fpsX1000 := by
  have sum : quotient fpsX1000 (n + 1) = quotient fpsX1000 n + 10 ^ 12 / fpsX1000 +
      if fpsX1000 ≤ n * 10 ^ 12 % fpsX1000 + 10 ^ 12 % fpsX1000 then 1 else 0 := by
    rw [quotient, quotient, Nat.succ_mul, Nat.add_div positive]
  split at sum
  · next carried =>
    -- Only a remainder of the length itself can carry, and then it is rounded up.
    have left := Nat.mod_lt (n * 10 ^ 12) positive
    have rest : 1 ≤ 10 ^ 12 % fpsX1000 := by omega
    have up : (10 ^ 12 + fpsX1000 - 1) / fpsX1000 = 10 ^ 12 / fpsX1000 + 1 := by
      have whole := Nat.div_add_mod (10 ^ 12) fpsX1000
      have regrouped : 10 ^ 12 + fpsX1000 - 1 =
          10 ^ 12 % fpsX1000 - 1 + fpsX1000 * (10 ^ 12 / fpsX1000 + 1) := by
        rw [Nat.mul_add, Nat.mul_one]
        omega
      have small : 10 ^ 12 % fpsX1000 - 1 < fpsX1000 := by
        have := Nat.mod_lt (10 ^ 12) positive
        omega
      rw [regrouped, Nat.add_mul_div_left _ _ positive, Nat.div_eq_of_lt small, Nat.zero_add]
    right
    rw [up]
    omega
  · left
    omega

/-- No rate of 32 bits is so fast that two frames are shown at once. -/
theorem quotient_lt_succ {fpsX1000 : Nat} (positive : 0 < fpsX1000) (fits : fpsX1000 < 2 ^ 32)
    (n : Nat) : quotient fpsX1000 n < quotient fpsX1000 (n + 1) := by
  have down : 1 ≤ 10 ^ 12 / fpsX1000 := (Nat.one_le_div_iff positive).mpr (by omega)
  have up : 10 ^ 12 / fpsX1000 ≤ (10 ^ 12 + fpsX1000 - 1) / fpsX1000 :=
    Nat.div_le_div_right (by omega)
  rcases quotient_succ positive n with next | next <;> omega

theorem quotient_strictMono {fpsX1000 : Nat} (positive : 0 < fpsX1000)
    (fits : fpsX1000 < 2 ^ 32) : StrictMono (quotient fpsX1000) :=
  strictMono_nat_of_lt_succ (quotient_lt_succ positive fits)

theorem Exact.grows {index : BlockIndex} {fpsX1000 : Nat} (exact : index.Exact fpsX1000)
    (positive : 0 < fpsX1000) {n : Nat} {earlier later : BlockDescriptor}
    (at_n : index.get? n = some earlier) (at_next : index.get? (n + 1) = some later) :
    later.timestampNs.toNat - earlier.timestampNs.toNat = 10 ^ 12 / fpsX1000 ∨
    later.timestampNs.toNat - earlier.timestampNs.toNat =
      (10 ^ 12 + fpsX1000 - 1) / fpsX1000 := by
  rw [exact n earlier at_n, exact (n + 1) later at_next]
  rcases quotient_succ positive n with next | next
  · left
    rw [next, Nat.add_sub_cancel_left]
  · right
    rw [next, Nat.add_sub_cancel_left]

/-- No two entries of the index have the same time, and the times grow. -/
def Increasing (index : BlockIndex) : Prop :=
  ∀ m n earlier later, m < n → index.get? m = some earlier → index.get? n = some later →
    earlier.timestampNs < later.timestampNs

theorem Exact.increasing {index : BlockIndex} {fpsX1000 : Nat} (exact : index.Exact fpsX1000)
    (positive : 0 < fpsX1000) (fits : fpsX1000 < 2 ^ 32) : index.Increasing := by
  intro m n earlier later lt at_m at_n
  rw [UInt64.lt_iff_toNat_lt, exact m earlier at_m, exact n later at_n]
  exact quotient_strictMono positive fits lt

section
variable {index : BlockIndex}

theorem Increasing.ordered (increasing : index.Increasing) : index.Ordered := by
  intro m n earlier later le at_m at_n
  rcases Nat.lt_or_eq_of_le le with lt | rfl
  · exact UInt64.le_of_lt (increasing m n earlier later lt at_m at_n)
  · rw [at_m, Option.some.injEq] at at_n
    exact at_n ▸ UInt64.le_refl _

/-- An entry is found by its time. -/
theorem Increasing.positionAt?_time (increasing : index.Increasing) {i : Nat}
    {entry : BlockDescriptor} (there : index.get? i = some entry) :
    index.positionAt? entry.timestampNs = some i := by
  apply (increasing.ordered.leastNotBefore.some_iff _ i).mpr
  refine ⟨⟨entry, there, UInt64.le_refl _⟩, ?_⟩
  intro j earlier lt at_j
  exact increasing j i earlier entry lt at_j there

/-- In order of time, an entry is found from any time since the entry before it. -/
theorem Ordered.positionAt?_since (ordered : index.Ordered) {i : Nat}
    {earlier entry : BlockDescriptor} {t : UInt64} (at_i : index.get? i = some earlier)
    (at_next : index.get? (i + 1) = some entry) (after_earlier : earlier.timestampNs < t)
    (not_after : t ≤ entry.timestampNs) : index.positionAt? t = some (i + 1) := by
  apply (ordered.leastNotBefore.some_iff t (i + 1)).mpr
  refine ⟨⟨entry, at_next, not_after⟩, ?_⟩
  intro j other lt at_j
  have le : other.timestampNs ≤ earlier.timestampNs :=
    ordered j i other earlier (Nat.le_of_lt_succ lt) at_j at_i
  exact UInt64.lt_of_le_of_lt le after_earlier

end

/-- **The lookup undoes the times.** In order of time it gives the first entry that
is not before a time. In an index whose last time fits in 64 bits, times grow by
the length of a frame, rounded down or up, so no two frames share one; the lookup
leads from the time of a frame back to it, and from any time that is not before
the frame's and after that of the frame before it, too. -/
theorem lookup_inverts_times :
    (∀ index : BlockIndex, index.Ordered → index.LeastNotBefore) ∧
    ∀ (lengths : List Nat) (footerSize frameSize fpsX1000 : Nat),
      1 ≤ fpsX1000 → fpsX1000 < 2 ^ 32 →
      let index := (build lengths footerSize frameSize fpsX1000).value
      (index.size - 1) * 10 ^ 12 / fpsX1000 < 2 ^ 64 →
      (∀ n earlier later, index.get? n = some earlier → index.get? (n + 1) = some later →
        later.timestampNs.toNat - earlier.timestampNs.toNat = 10 ^ 12 / fpsX1000 ∨
        later.timestampNs.toNat - earlier.timestampNs.toNat =
          (10 ^ 12 + fpsX1000 - 1) / fpsX1000) ∧
      (∀ m n earlier later, m < n → index.get? m = some earlier → index.get? n = some later →
        earlier.timestampNs < later.timestampNs) ∧
      (∀ i entry, index.get? i = some entry → index.positionAt? entry.timestampNs = some i) ∧
      (∀ i earlier entry t, index.get? i = some earlier → index.get? (i + 1) = some entry →
        earlier.timestampNs < t → t ≤ entry.timestampNs →
        index.positionAt? t = some (i + 1)) ∧
      index.LeastNotBefore := by
  refine ⟨fun index ordered => ordered.leastNotBefore, ?_⟩
  intro lengths footerSize frameSize fpsX1000 positive rate_fits index fits
  have exact : index.Exact fpsX1000 :=
    (build_timed lengths footerSize frameSize fpsX1000).exact_iff.mpr fits
  have increasing : index.Increasing := exact.increasing positive rate_fits
  refine ⟨?_, increasing, ?_, ?_, increasing.ordered.leastNotBefore⟩
  · intro n earlier later at_n at_next
    exact exact.grows positive at_n at_next
  · intro i entry there
    exact increasing.positionAt?_time there
  · intro i earlier entry t at_i at_next after_earlier not_after
    exact increasing.ordered.positionAt?_since at_i at_next after_earlier not_after

/-- Ten frames at 23.976 frames a second, and ten that are all shown at once. -/
theorem lookup_inverts_times_ten_frames :
    let film := (build [1192] 192 100 23976).value
    let still := (build [1192] 192 100 0).value
    film.positionAt? 41708375 = some 1 ∧ film.positionAt? 41708376 = some 2 ∧
    film.positionAt? 83416750 = some 2 ∧ still.positionAt? 0 = some 0 ∧
    still.positionAt? 1 = none := by
  intro film still
  obtain ⟨first_of_ordered, inverts⟩ := lookup_inverts_times
  have last_fits : (film.size - 1) * 10 ^ 12 / 23976 < 2 ^ 64 := by
    rw [size_build]
    decide
  obtain ⟨_, _, at_time, since_last, _⟩ :=
    inverts [1192] 192 100 23976 (by decide) (by decide) last_fits
  have first : film.get? 1 = some ⟨0, 100, 41708375⟩ := by
    rw [get?_build]
    decide
  have second : film.get? 2 = some ⟨0, 200, 83416750⟩ := by
    rw [get?_build]
    decide
  have all_fit : quotient 0 (still.size - 1) < 2 ^ 64 := by
    rw [quotient, Nat.div_zero]
    decide
  have found := first_of_ordered still ((build_timed [1192] 192 100 0).ordered_iff.mpr all_fit)
  have still_first : still.get? 0 = some ⟨0, 0, 0⟩ := by
    rw [get?_build]
    decide
  refine ⟨at_time 1 _ first, ?_, at_time 2 _ second, ?_, ?_⟩
  · exact since_last 1 _ _ 41708376 first second (by decide) (by decide)
  · apply (found.some_iff 0 0).mpr
    exact ⟨⟨_, still_first, by decide⟩, fun j _ lt => absurd lt (Nat.not_lt_zero j)⟩
  · apply (found.none_iff 1).mpr
    intro j entry there
    rw [build_timed [1192] 192 100 0 j entry there, BlockDescriptor.timestamp, Nat.div_zero]
    decide

end RawReel.BlockIndex
