/-!
White space in the sense of Unicode, and trimming it away.
-/

namespace RawReel.Text

def isBlank (c : Char) : Bool :=
  let n := c.toNat
  (0x09 ≤ n && n ≤ 0x0D) || n == 0x20 || n == 0x85 || n == 0xA0 || n == 0x1680
    || (0x2000 ≤ n && n ≤ 0x200A) || n == 0x2028 || n == 0x2029 || n == 0x202F || n == 0x205F
    || n == 0x3000

def trimStart (s : List Char) : List Char := s.dropWhile isBlank

/-- Drops from the end what satisfies a test. -/
def dropEndWhile (test : Char → Bool) (s : List Char) : List Char :=
  (s.reverse.dropWhile test).reverse

def trim (s : List Char) : List Char := dropEndWhile isBlank (trimStart s)

/-- The lines of a text. A carriage return before the end of a line belongs to the end; after the
last line end no further line starts. -/
def splitLines (s : List Char) : List (List Char) :=
  let lines := s.splitOn '\n'
  let full := if lines.getLast? = some [] then lines.dropLast else lines
  full.mapIdx fun n line =>
    if n + 1 < lines.length ∧ line.getLast? = some '\r' then line.dropLast else line

end RawReel.Text
