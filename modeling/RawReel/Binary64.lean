/-!
Finite double-precision numbers as exact values: a sign, a significand and a power of two. What is
printed or divided with a remainder is computed on these, without rounding.
-/

namespace RawReel

/-- The number `significand * 2 ^ exponent`, negated if `negative`. Zero has a sign too. -/
structure Binary64 where
  negative : Bool
  significand : Nat
  exponent : Int
  deriving DecidableEq

namespace Binary64

/-- The exact value of a double; infinities and NaN have none. -/
def ofFloat? (x : Float) : Option Binary64 :=
  let bits := x.toBits.toNat
  let biased : Nat := bits / Nat.pow 2 52 % Nat.pow 2 11
  let fraction := bits % Nat.pow 2 52
  let negative := bits / Nat.pow 2 63 == 1
  if biased = 2047 then none
  else if biased = 0 then some ⟨negative, fraction, -1074⟩
  else some ⟨negative, Nat.pow 2 52 + fraction, (biased : Int) - 1075⟩

/-- The double nearest to the value. -/
def toFloat (x : Binary64) : Float :=
  let magnitude := (Float.ofNat x.significand).scaleB x.exponent
  if x.negative then -magnitude else magnitude

/-- Numerator of the magnitude, over `denominator`. -/
def numerator (x : Binary64) : Nat := x.significand * Nat.pow 2 x.exponent.toNat

def denominator (x : Binary64) : Nat := Nat.pow 2 (-x.exponent).toNat

/-- What is left of `x` after taking away whole multiples of `y`, with the sign of `x`. -/
def remainder (x y : Binary64) : Binary64 :=
  let exponent := min x.exponent y.exponent
  let scaled (z : Binary64) : Nat := z.significand * Nat.pow 2 (z.exponent - exponent).toNat
  ⟨x.negative, scaled x % scaled y, exponent⟩

end Binary64

/-- The remainder of a division toward zero; NaN unless both numbers are finite and the divisor is
not zero. -/
def remainder (x y : Float) : Float :=
  match Binary64.ofFloat? x, Binary64.ofFloat? y with
  | some a, some b => if b.significand = 0 then 0 / 0 else (a.remainder b).toFloat
  | _, _ => 0 / 0

end RawReel
