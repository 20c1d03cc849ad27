import RawReel.Text.Unprintable

/-!
Text between double quotes on one line: quotes, backslashes and characters that do not show by
themselves are escaped.
-/

namespace RawReel.Text.Quoted

/-- The hexadecimal digits of a number, without leading zeros. -/
def hexDigits (n : Nat) : List Char := Nat.toDigits 16 n

/-- A character between the quotes. -/
def escape (c : Char) : List Char :=
  match c with
  | '\x00' => ['\\', '0']
  | '\t' => ['\\', 't']
  | '\r' => ['\\', 'r']
  | '\n' => ['\\', 'n']
  | '\\' => ['\\', '\\']
  | '"' => ['\\', '"']
  | c =>
    if isUnprintable c then '\\' :: 'u' :: '\x7b' :: hexDigits c.toNat ++ ['\x7d'] else [c]

/-- Text with its quotes. -/
def encode (s : List Char) : List Char := '"' :: s.flatMap escape ++ ['"']

end RawReel.Text.Quoted
