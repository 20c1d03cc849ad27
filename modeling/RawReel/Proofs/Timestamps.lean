import RawReel.Proofs.Indexing

/-!
# When frames are shown

The time of a frame is a quotient, rounded down and then cut to 64 bits. Main
statement: `build_times`. The times of an index are the quotients, and they
never decrease, exactly if the quotient of its last frame fits in 64 bits. The
first one that does not fit wraps around to less than the one before it.
-/

namespace RawReel.BlockIndex

/-- The time of frame `n`, rounded down and not cut. -/
def quotient (fpsX1000 n : Nat) : Nat := n * 10 ^ 12 / fpsX1000

theorem quotient_mono (fpsX1000 : Nat) {m n : Nat} (le : m ≤ n) :
    quotient fpsX1000 m ≤ quotient fpsX1000 n :=
  Nat.div_le_div_right (Nat.mul_le_mul_right _ le)

/-- Even at the slowest rate a frame lasts far less than 64 bits can count. -/
theorem quotient_succ_le (fpsX1000 n : Nat) :
    quotient fpsX1000 (n + 1) ≤ quotient fpsX1000 n + (10 ^ 12 + 1) := by
  simp only [quotient, Nat.succ_mul]
  rcases Nat.eq_zero_or_pos fpsX1000 with rfl | positive
  · simp only [Nat.div_zero, Nat.zero_le]
  · have frame : 10 ^ 12 / fpsX1000 ≤ 10 ^ 12 := Nat.div_le_self _ _
    have sum := Nat.add_div (a := n * 10 ^ 12) (b := 10 ^ 12) positive
    split at sum <;> omega

theorem toNat_timestamp (fpsX1000 n : Nat) :
    (BlockDescriptor.timestamp n fpsX1000).toNat = quotient fpsX1000 n % 2 ^ 64 := by
  simp [BlockDescriptor.timestamp, quotient]

theorem toNat_timestamp_eq_iff (fpsX1000 n : Nat) :
    (BlockDescriptor.timestamp n fpsX1000).toNat = quotient fpsX1000 n ↔
      quotient fpsX1000 n < 2 ^ 64 := by
  rw [toNat_timestamp]
  constructor
  · intro same
    have := Nat.mod_lt (quotient fpsX1000 n) (Nat.two_pow_pos 64)
    omega
  · exact Nat.mod_eq_of_lt

/-- A frame whose time still fits, in front of one whose time does not. -/
theorem exists_first_overflow {fpsX1000 last : Nat} (beyond : 2 ^ 64 ≤ quotient fpsX1000 last) :
    ∃ n, n < last ∧ quotient fpsX1000 n < 2 ^ 64 ∧ 2 ^ 64 ≤ quotient fpsX1000 (n + 1) := by
  induction last with
  | zero => simp [quotient] at beyond
  | succ last ih =>
    by_cases fits : quotient fpsX1000 last < 2 ^ 64
    · exact ⟨last, Nat.lt_succ_self _, fits, beyond⟩
    · obtain ⟨n, lt, found⟩ := ih (by omega)
      exact ⟨n, by omega, found⟩

/-- The cut turns the first time that does not fit back to less than a frame. -/
theorem timestamp_wraps {fpsX1000 n : Nat} (fits : quotient fpsX1000 n < 2 ^ 64)
    (beyond : 2 ^ 64 ≤ quotient fpsX1000 (n + 1)) :
    BlockDescriptor.timestamp (n + 1) fpsX1000 < BlockDescriptor.timestamp n fpsX1000 := by
  rw [UInt64.lt_iff_toNat_lt, toNat_timestamp, toNat_timestamp, Nat.mod_eq_of_lt fits]
  have := quotient_succ_le fpsX1000 n
  omega

/-! ## Exact times and times in order -/

/-- Every entry of the index has the exact time of its frame. -/
def Exact (index : BlockIndex) (fpsX1000 : Nat) : Prop :=
  ∀ n entry, index.get? n = some entry → entry.timestampNs.toNat = quotient fpsX1000 n

/-- The times of the index never decrease. -/
def Ordered (index : BlockIndex) : Prop :=
  ∀ m n earlier later, m ≤ n → index.get? m = some earlier → index.get? n = some later →
    earlier.timestampNs ≤ later.timestampNs

/-- Every entry of the index has the time of its frame, cut to 64 bits. -/
def Timed (index : BlockIndex) (fpsX1000 : Nat) : Prop :=
  ∀ n entry, index.get? n = some entry →
    entry.timestampNs = BlockDescriptor.timestamp n fpsX1000

theorem build_timed (lengths : List Nat) (footerSize frameSize fpsX1000 : Nat) :
    (build lengths footerSize frameSize fpsX1000).value.Timed fpsX1000 := by
  intro n entry found
  rw [get?_build] at found
  split at found <;> cases found
  rfl

theorem lt_size_of_get? {index : BlockIndex} {n : Nat} {entry : BlockDescriptor}
    (found : index.get? n = some entry) : n < index.size :=
  (Array.getElem?_eq_some_iff.mp found).1

theorem exists_get? {index : BlockIndex} {n : Nat} (within : n < index.size) :
    ∃ entry, index.get? n = some entry := ⟨_, Array.getElem?_eq_getElem within⟩

theorem Timed.exact_iff {index : BlockIndex} {fpsX1000 : Nat} (timed : index.Timed fpsX1000) :
    index.Exact fpsX1000 ↔ quotient fpsX1000 (index.size - 1) < 2 ^ 64 := by
  constructor
  · intro exact
    rcases Nat.eq_zero_or_pos index.size with nothing | something
    · simp [nothing, quotient]
    · obtain ⟨entry, found⟩ := exists_get? (Nat.sub_lt something Nat.one_pos)
      rw [← toNat_timestamp_eq_iff, ← timed _ _ found]
      exact exact _ _ found
  · intro fits n entry found
    rw [timed n entry found, toNat_timestamp_eq_iff]
    have := lt_size_of_get? found
    exact Nat.lt_of_le_of_lt (quotient_mono fpsX1000 (by omega)) fits

theorem Timed.ordered_iff {index : BlockIndex} {fpsX1000 : Nat} (timed : index.Timed fpsX1000) :
    index.Ordered ↔ quotient fpsX1000 (index.size - 1) < 2 ^ 64 := by
  constructor
  · intro ordered
    apply Nat.lt_of_not_le
    intro beyond
    obtain ⟨n, lt, fits, beyond⟩ := exists_first_overflow beyond
    obtain ⟨earlier, found⟩ := exists_get? (show n < index.size by omega)
    obtain ⟨later, found'⟩ := exists_get? (show n + 1 < index.size by omega)
    have le := ordered n (n + 1) earlier later (Nat.le_succ n) found found'
    rw [timed _ _ found, timed _ _ found'] at le
    exact absurd (timestamp_wraps fits beyond) (UInt64.not_lt.mpr le)
  · intro fits m n earlier later le found found'
    have exact := timed.exact_iff.mpr fits
    rw [UInt64.le_iff_toNat_le, exact m earlier found, exact n later found']
    exact quotient_mono fpsX1000 le

/-- **Times are right up to the first that does not fit in 64 bits.** An entry
has the exact time of its frame if and only if that time fits; all have it, and
the times never decrease, if and only if the last one fits. -/
theorem build_times (lengths : List Nat) (footerSize frameSize fpsX1000 : Nat) :
    let index := (build lengths footerSize frameSize fpsX1000).value
    (∀ n entry, index.get? n = some entry →
      (entry.timestampNs.toNat = quotient fpsX1000 n ↔ quotient fpsX1000 n < 2 ^ 64)) ∧
    (index.Exact fpsX1000 ↔ quotient fpsX1000 (index.size - 1) < 2 ^ 64) ∧
    (index.Ordered ↔ quotient fpsX1000 (index.size - 1) < 2 ^ 64) := by
  have timed := build_timed lengths footerSize frameSize fpsX1000
  refine ⟨?_, timed.exact_iff, timed.ordered_iff⟩
  intro n entry found
  rw [timed n entry found]
  exact toNat_timestamp_eq_iff fpsX1000 n

/-- At one frame in a thousand seconds, frames of one byte in a file of
18446746 bytes do not all have the exact time, and the last one is shown before
the one in front of it. -/
theorem slow_times_wrap :
    let index := (build [18446746] 0 1 1).value
    ¬ index.Exact 1 ∧ ¬ index.Ordered ∧
    (index.get? 18446745).map (·.timestampNs.toNat) = some 926290448384 ∧
    quotient 1 18446745 = 18446745000000000000 := by
  have timed := build_timed [18446746] 0 1 1
  have beyond : ¬ quotient 1 ((build [18446746] 0 1 1).value.size - 1) < 2 ^ 64 := by
    rw [size_build]; decide
  refine ⟨mt timed.exact_iff.mp beyond, mt timed.ordered_iff.mp beyond, ?_, by decide⟩
  rw [get?_build]
  decide

end RawReel.BlockIndex
