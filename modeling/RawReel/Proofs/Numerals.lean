import Mathlib
import RawReel.Text.Digits
import RawReel.Text.Pad

/-!
# Numbers in file names

* `ofDecimal_paddedNat`: a padded number tells the number;
* `toList_paddedNat_two`: below a hundred, two digits.
-/

namespace RawReel.Text

theorem toList_paddedNat (width n : Nat) :
    (paddedNat width n).toList =
      List.replicate (width - (Nat.toDigits 10 n).length) '0' ++ Nat.toDigits 10 n := by
  have digits : toString n = String.ofList (Nat.toDigits 10 n) := Nat.toString_eq_ofList_toDigits
  have count : (toString n).length = (Nat.toDigits 10 n).length := by
    rw [digits, String.length_ofList]
  rw [paddedNat, padStart, String.toList_append, String.toList_ofList, count, digits,
    String.toList_ofList]

/-- The digits of a padded number tell the number. -/
theorem ofDecimal_paddedNat (width n : Nat) : ofDecimal (paddedNat width n).toList = n := by
  have padding : Nat.ofDigitChars 10 (List.replicate (width - (Nat.toDigits 10 n).length) '0') 0 =
      0 := by rw [Nat.ofDigitChars_replicate_zero, Nat.mul_zero]
  change Nat.ofDigitChars 10 (paddedNat width n).toList 0 = n
  rw [toList_paddedNat, Nat.ofDigitChars_append, padding, Nat.ofDigitChars_ten_toDigits]

theorem paddedNat_injective (width : Nat) :
    Function.Injective fun n => (paddedNat width n).toList := by
  intro m n same
  rw [← ofDecimal_paddedNat width m, ← ofDecimal_paddedNat width n]
  exact congrArg ofDecimal same

theorem isDigit_of_mem_paddedNat {width n : Nat} {c : Char}
    (among : c ∈ (paddedNat width n).toList) : c.isDigit = true := by
  rw [toList_paddedNat, List.mem_append, List.mem_replicate] at among
  obtain ⟨_, rfl⟩ | digit := among
  · rfl
  · exact Nat.isDigit_of_mem_toDigits (by decide) (by decide) digit

/-- Below a hundred there are two digits. -/
theorem toList_paddedNat_two {n : Nat} (small : n < 100) :
    (paddedNat 2 n).toList = [Nat.digitChar (n / 10), Nat.digitChar (n % 10)] := by
  rw [toList_paddedNat]
  by_cases one : n < 10
  · rw [Nat.toDigits_of_lt_base one, Nat.div_eq_of_lt one, Nat.mod_eq_of_lt one]
    rfl
  · rw [Nat.toDigits_of_base_le (by decide) (Nat.le_of_not_lt one),
      Nat.toDigits_of_lt_base (by omega)]
    rfl

theorem exists_digitChar {c : Char} (digit : c.isDigit = true) : ∃ n < 10, Nat.digitChar n = c := by
  have range : 48 ≤ c.toNat ∧ c.toNat ≤ 57 := by
    simpa [Char.isDigit, UInt32.le_iff_toNat_le] using digit
  refine ⟨c.toNat - 48, by omega, ?_⟩
  rw [← c.ofNat_toNat]
  generalize c.toNat = code at range
  obtain ⟨low, high⟩ := range
  interval_cases code <;> rfl

/-- Two digits are a number below a hundred. -/
theorem exists_paddedNat_two {tens ones : Char} (is_tens : tens.isDigit = true)
    (is_ones : ones.isDigit = true) : ∃ n < 100, (paddedNat 2 n).toList = [tens, ones] := by
  obtain ⟨m, m_small, rfl⟩ := exists_digitChar is_tens
  obtain ⟨n, n_small, rfl⟩ := exists_digitChar is_ones
  refine ⟨10 * m + n, by omega, ?_⟩
  have front : (10 * m + n) / 10 = m := by omega
  have back : (10 * m + n) % 10 = n := by omega
  rw [toList_paddedNat_two (by omega), front, back]

end RawReel.Text
