import RawReel.Text.Digits

/-!
Bytes, runs of bytes of a fixed length, and four-character codes.
-/

namespace RawReel

/-- The contents of a file, or any stretch of them. -/
abbrev Bytes := List UInt8

/-- Exactly `n` bytes. -/
structure FixedBytes (n : Nat) where
  bytes : Bytes
  length_eq : bytes.length = n
  deriving DecidableEq

namespace FixedBytes

theorem ext {n : Nat} {a b : FixedBytes n} (h : a.bytes = b.bytes) : a = b := by
  cases a; cases b; cases h; rfl

/-- `n` zero bytes. -/
def zero (n : Nat) : FixedBytes n := ⟨List.replicate n 0, List.length_replicate⟩

instance {n : Nat} : Inhabited (FixedBytes n) := ⟨zero n⟩

end FixedBytes

/-- A four-character code, the tag in front of a record. -/
abbrev FourCC := FixedBytes 4

/-- The code whose bytes are the four given characters. -/
def FourCC.ofChars (a b c d : Char) : FourCC :=
  ⟨[a, b, c, d].map fun ch => UInt8.ofNat ch.toNat, rfl⟩

namespace Bytes

/-- One byte as it is shown inside quotes: printable ASCII stands for itself, quotes and the
backslash are escaped, everything else is named or written as `\xNN`. -/
def escapeByte (b : UInt8) : List Char :=
  match b.toNat with
  | 0x09 => ['\\', 't']
  | 0x0a => ['\\', 'n']
  | 0x0d => ['\\', 'r']
  | 0x22 => ['\\', '"']
  | 0x27 => ['\\', '\'']
  | 0x5c => ['\\', '\\']
  | n =>
    if 0x20 ≤ n ∧ n < 0x7f then [Char.ofNat n]
    else ['\\', 'x', Text.lowerHexDigit (n / 16), Text.lowerHexDigit (n % 16)]

/-- The text that shows arbitrary bytes inside double quotes. -/
def escaped (bs : Bytes) : String := String.ofList (bs.flatMap escapeByte)

end Bytes

/-- The text of a code, as messages show it. -/
def FourCC.text (code : FourCC) : String := Bytes.escaped code.bytes

end RawReel
