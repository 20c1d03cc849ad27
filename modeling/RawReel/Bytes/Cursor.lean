import RawReel.Bytes.LittleEndian
import RawReel.IoError

/-!
Reading the fields of a packed record front to back. A word or a run of bytes is read whole or not
at all; a failed read names the offset it was tried at and leaves the cursor where it stood.
-/

namespace RawReel

/-- A place in a record: the bytes not yet read, and how many were read before them. -/
structure Cursor where
  rest : Bytes
  offset : Nat
  deriving DecidableEq

/-- A read that asks for more than the record still holds. -/
inductive EndOfRecord
  | word (bits offset : Nat)
  | bytes (count offset : Nat)
  deriving DecidableEq

namespace EndOfRecord

def message : EndOfRecord → String
  | word bits offset => s!"get_n({bits}): out of bounds at byte {offset}"
  | bytes count offset => s!"get_bytes({count}): out of bounds at byte {offset}"

def toIoError (e : EndOfRecord) : IoError := ⟨.unexpectedEof, e.message⟩

end EndOfRecord

namespace Cursor

/-- The start of a record that is declared to be `length` bytes long; what follows them in `data`
is out of reach. -/
def start (data : Bytes) (length : Nat) : Cursor := ⟨data.take length, 0⟩

/-- The start of a record that takes up all of `data`. -/
def ofBytes (data : Bytes) : Cursor := ⟨data, 0⟩

/-- Bits read so far. -/
def position (c : Cursor) : Nat := 8 * c.offset

/-- Bits still to be read. -/
def available (c : Cursor) : Nat := 8 * c.rest.length

/-- A reader of part of a record. A failure keeps the cursor that it left behind. -/
abbrev Read (α : Type) := EStateM EndOfRecord Cursor α

/-- The next word. -/
def word (α : Type) [Word α] : Read α := fun c =>
  if Word.width α ≤ c.rest.length then
    .ok (Word.decode (c.rest.take (Word.width α)))
      ⟨c.rest.drop (Word.width α), c.offset + Word.width α⟩
  else .error (.word (8 * Word.width α) c.offset) c

/-- The next `n` bytes. -/
def fixed (n : Nat) : Read (FixedBytes n) := fun c =>
  if h : n ≤ c.rest.length then
    .ok ⟨c.rest.take n, by simp [h]⟩ ⟨c.rest.drop n, c.offset + n⟩
  else .error (.bytes n c.offset) c

/-- The next `n` words, one after the other: the words before the first that does not fit are
consumed also when the read as a whole fails. -/
def words (α : Type) [Word α] : Nat → Read (List α)
  | 0 => pure []
  | n + 1 => do
    let x ← word α
    let xs ← words α n
    return x :: xs

end Cursor

end RawReel
