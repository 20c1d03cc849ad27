/-!
Text of a least width, counted in characters.
-/

namespace RawReel.Text

/-- Fills up at the front. -/
def padStart (width : Nat) (fill : Char) (s : String) : String :=
  String.ofList (List.replicate (width - s.length) fill) ++ s

/-- Fills up with blanks at the end. -/
def padEnd (width : Nat) (s : String) : String :=
  s ++ String.ofList (List.replicate (width - s.length) ' ')

/-- A number of at least `width` decimal digits. -/
def paddedNat (width n : Nat) : String := padStart width '0' (toString n)

end RawReel.Text
