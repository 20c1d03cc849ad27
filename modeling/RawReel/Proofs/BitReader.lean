import Mathlib
import RawReel.Bytes.Cursor

/-!
# Records read by counting bits

A record can also be read from a source of bits, with its length and its place
counted in bits, in words of 64 bits.

* `Bits.number`: the number that some bits stand for, the least significant bit of
  every byte first;
* `Bits.number_bytes`: the bits of whole bytes stand for the number that the bytes
  stand for;
* `BitSource.Faithful`: a source that gives these bits, and counts them;
* `BitReader`: the reads of a record, over such a source;
* `MemoryBits`: a faithful source.
-/

namespace RawReel

namespace Bits

/-- One bit of a run of bytes; every byte starts with its least significant bit. -/
def bit (data : Bytes) (place : Nat) : Bool :=
  (data.getD (place / 8) 0).toNat.testBit (place % 8)

/-- The number that bits from a place on stand for, least significant first. -/
def number (data : Bytes) : (place count : Nat) → Nat
  | _, 0 => 0
  | place, count + 1 => (bit data place).toNat + 2 * number data (place + 1) count

/-- The bytes that bits from a place on stand for. -/
def bytes (data : Bytes) (place count : Nat) : Bytes :=
  (List.range count).map fun n => UInt8.ofNat (number data (place + 8 * n) 8)

theorem number_add (data : Bytes) (place first later : Nat) :
    number data place (first + later) =
      number data place first + 2 ^ first * number data (place + first) later := by
  induction first generalizing place with
  | zero => simp [number]
  | succ first ih =>
    have shifted : place + 1 + first = place + (first + 1) := by omega
    rw [Nat.add_right_comm, number, ih, number, shifted]
    ring

/-- Bits of one byte stand for some of its binary digits. -/
theorem number_within (data : Bytes) (n : Nat) {start count : Nat} (within : start + count ≤ 8) :
    number data (8 * n + start) count =
      (data.getD n 0).toNat / 2 ^ start % 2 ^ count := by
  induction count generalizing start with
  | zero => simp [number, Nat.mod_one]
  | succ count ih =>
    have byte : (8 * n + start) / 8 = n := by omega
    have place : (8 * n + start) % 8 = start := by omega
    rw [number, bit, byte, place, Nat.toNat_testBit, Nat.add_assoc, ih (by omega), pow_succ,
      pow_succ, ← Nat.div_div_eq_div_mul, Nat.mul_comm (2 ^ count), Nat.mod_mul]

theorem number_byte (data : Bytes) (n : Nat) :
    number data (8 * n) 8 = (data.getD n 0).toNat := by
  have whole := number_within data n (Nat.le_of_eq (Nat.zero_add 8))
  have small : (data.getD n 0).toNat < 2 ^ 8 := UInt8.toNat_lt _
  rwa [Nat.add_zero, pow_zero, Nat.div_one, Nat.mod_eq_of_lt small] at whole

/-- **The bits of whole bytes** stand for the number that the bytes stand for. -/
theorem number_bytes {data : Bytes} {start count : Nat} (within : start + count ≤ data.length) :
    number data (8 * start) (8 * count) =
      LittleEndian.decode ((data.drop start).take count) := by
  induction count generalizing start with
  | zero => simp [number, LittleEndian.decode]
  | succ count ih =>
    have here : start < data.length := by omega
    have later := @ih (start + 1) (by omega)
    rw [List.drop_eq_getElem_cons here, List.take_succ_cons, LittleEndian.decode, ← later,
      Nat.mul_succ, Nat.add_comm (8 * count), number_add, number_byte,
      List.getD_eq_getElem _ _ here, Nat.mul_succ]
    norm_num

theorem length_bytes (data : Bytes) (place count : Nat) :
    (bytes data place count).length = count := by
  rw [bytes, List.length_map, List.length_range]

theorem getElem_bytes {data : Bytes} {place count n : Nat}
    (there : n < (bytes data place count).length) :
    (bytes data place count)[n] = UInt8.ofNat (number data (place + 8 * n) 8) := by
  simp only [bytes, List.getElem_map, List.getElem_range]

theorem bytes_eq {data : Bytes} {start count : Nat} (within : start + count ≤ data.length) :
    bytes data (8 * start) count = (data.drop start).take count := by
  apply List.ext_getElem
  · rw [length_bytes, List.length_take, List.length_drop]
    omega
  · intro n there there'
    have here : start + n < data.length := by
      rw [length_bytes] at there
      omega
    have place : 8 * start + 8 * n = 8 * (start + n) := by omega
    rw [getElem_bytes, place, number_byte, List.getD_eq_getElem _ _ here, UInt8.ofNat_toNat,
      List.getElem_take, List.getElem_drop]

end Bits

/-- A source that is read bit by bit, and knows how many bits were read. -/
class BitSource (σ : Type) where
  position : EStateM IoError σ UInt64
  number : (count : Nat) → EStateM IoError σ Nat
  bytes : (count : Nat) → EStateM IoError σ (FixedBytes count)

/-- A source gives the bits of `data` in order and counts them: `At` says how many
were read up to a state. What becomes of a read that goes beyond the data, or that
asks for a number of more than 64 bits, is left open. -/
structure BitSource.Faithful {σ : Type} [BitSource σ] (data : Bytes) (At : Nat → σ → Prop) :
    Prop where
  position {place : Nat} {s : σ} (stands : At place s) :
    ∃ s', position s = .ok (UInt64.ofNat place) s' ∧ At place s'
  number {place : Nat} {s : σ} (stands : At place s) (count : Nat) (narrow : count ≤ 64)
    (within : place + count ≤ 8 * data.length) :
    ∃ s', number count s = .ok (Bits.number data place count) s' ∧ At (place + count) s'
  bytes {place : Nat} {s : σ} (stands : At place s) (count : Nat)
    (within : place + 8 * count ≤ 8 * data.length) :
    ∃ found s', bytes count s = .ok found s' ∧
      found.bytes = Bits.bytes data place count ∧ At (place + 8 * count) s'

/-- A record that is read from a source of bits, with its length in bits. -/
structure BitReader (σ : Type) where
  source : σ
  length : UInt64

namespace BitReader

variable {σ : Type} [BitSource σ]

/-- The start of a record that is declared to be `length` bytes long. -/
def start (source : σ) (length : Nat) : BitReader σ := ⟨source, UInt64.ofNat length <<< 3⟩

abbrev Read (σ α : Type) := EStateM IoError (BitReader σ) α

/-- A read of the source alone. -/
def fromSource {α : Type} (read : EStateM IoError σ α) : Read σ α := fun r =>
  match read r.source with
  | .ok x s => .ok x { r with source := s }
  | .error e s => .error e { r with source := s }

/-- Bits read so far. -/
def position : Read σ UInt64 := fromSource BitSource.position

/-- Bits still to be read. -/
def available : Read σ UInt64 := do
  let place ← position
  return (← get).length - place

/-- Eight times a number, as a word. -/
theorem ofNat_shiftLeft (n : Nat) : UInt64.ofNat n <<< 3 = UInt64.ofNat (8 * n) := by
  apply UInt64.toNat_inj.mp
  rw [UInt64.toNat_shiftLeft, UInt64.toNat_ofNat', UInt64.toNat_ofNat']
  change (n % 2 ^ 64) <<< 3 % 2 ^ 64 = 8 * n % 2 ^ 64
  rw [Nat.shiftLeft_eq]
  omega

/-- The number that the next `count` bits stand for. -/
def number (count : Nat) : Read σ Nat := do
  if (← available) < UInt64.ofNat count then
    throw (EndOfRecord.word count ((← position) >>> 3).toNat).toIoError
  fromSource (BitSource.number count)

/-- The next word. -/
def word (α : Type) [Word α] : Read σ α := do
  return Word.ofNat (← number (8 * Word.width α))

/-- The next `n` bytes. -/
def fixed (n : Nat) : Read σ (FixedBytes n) := do
  if (← available) < UInt64.ofNat n <<< 3 then
    throw (EndOfRecord.bytes n ((← position) >>> 3).toNat).toIoError
  fromSource (BitSource.bytes n)

/-- The next `n` words, one after the other. -/
def words (α : Type) [Word α] : Nat → Read σ (List α)
  | 0 => pure []
  | n + 1 => do
    let x ← word α
    let xs ← words α n
    return x :: xs

end BitReader

/-- The bits of a run of bytes in memory, and how many of them were read. -/
structure MemoryBits where
  data : Bytes
  place : Nat

namespace MemoryBits

/-- Reads `count` bits by a function of the place where they start. -/
def read {α : Type} (count : Nat) (value : Nat → α) : EStateM IoError MemoryBits α := fun s =>
  if s.place + count ≤ 8 * s.data.length then
    .ok (value s.place) { s with place := s.place + count }
  else .error ⟨.unexpectedEof, "failed to fill whole buffer"⟩ s

instance : BitSource MemoryBits where
  position := fun s => .ok (UInt64.ofNat s.place) s
  number count := fun s => read count (Bits.number s.data · count) s
  bytes count := fun s =>
    read (8 * count) (fun place => ⟨Bits.bytes s.data place count, Bits.length_bytes ..⟩) s

theorem faithful (data : Bytes) :
    BitSource.Faithful data fun place (s : MemoryBits) => s = ⟨data, place⟩ where
  position := by
    rintro place _ rfl
    exact ⟨_, rfl, rfl⟩
  number := by
    rintro place _ rfl count _ within
    exact ⟨_, if_pos within, rfl⟩
  bytes := by
    rintro place _ rfl count within
    exact ⟨_, _, if_pos within, rfl, rfl⟩

end MemoryBits

end RawReel
