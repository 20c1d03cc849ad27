import RawReel.Binary64
import RawReel.Text.Pad

/-!
Numbers with a fixed count of decimal places. The exact value is rounded to the nearest decimal, a
tie goes to the even digit, and the sign is kept also where all digits shown are zero.
-/

namespace RawReel

/-- The integer nearest to `num / den`; halfway between two, the even one. -/
def roundHalfEven (num den : Nat) : Nat :=
  let q := num / den
  let twice := 2 * (num % den)
  if twice < den then q
  else if den < twice then q + 1
  else if q % 2 = 0 then q else q + 1

namespace Text

/-- Decimal digits of `n` with a point before the last `places` of them. -/
def withPoint (places n : Nat) : String :=
  let whole := toString (n / Nat.pow 10 places)
  if places = 0 then whole else whole ++ "." ++ paddedNat places (n % Nat.pow 10 places)

/-- A finite number with `places` decimal places. -/
def fixedPoint (places : Nat) (x : Binary64) : String :=
  let digits := withPoint places (roundHalfEven (x.numerator * Nat.pow 10 places) x.denominator)
  if x.negative then "-" ++ digits else digits

/-- A double with `places` decimal places. -/
def fixedFloat (places : Nat) (x : Float) : String :=
  match Binary64.ofFloat? x with
  | some exact => fixedPoint places exact
  | none => if x.isNaN then "NaN" else if x < 0 then "-inf" else "inf"

end Text

end RawReel
