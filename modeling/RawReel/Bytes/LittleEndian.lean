import RawReel.Bytes

/-!
Little-endian numbers and fixed-width words. Decoding inverts encoding on every value that fits,
and encoding inverts decoding on every run of the right length.
-/

namespace RawReel

namespace LittleEndian

/-- The `w` low bytes of `n`, least significant first. -/
def encode : Nat → Nat → Bytes
  | 0, _ => []
  | w + 1, n => UInt8.ofNat n :: encode w (n / 256)

/-- The number that a run of bytes stands for, least significant byte first. -/
def decode : Bytes → Nat
  | [] => 0
  | b :: bs => b.toNat + 256 * decode bs

@[simp] theorem length_encode (w n : Nat) : (encode w n).length = w := by
  induction w generalizing n with
  | zero => rfl
  | succ w ih => simp [encode, ih]

theorem decode_encode {w n : Nat} (h : n < Nat.pow 256 w) : decode (encode w n) = n := by
  induction w generalizing n with
  | zero => rw [Nat.pow_eq, Nat.pow_zero, Nat.lt_one_iff] at h; subst h; rfl
  | succ w ih =>
    have hq : n / 256 < Nat.pow 256 w := by
      rw [Nat.pow_eq] at h ⊢
      rw [Nat.pow_succ] at h
      omega
    simp only [encode, decode, ih hq, UInt8.toNat_ofNat']
    omega

theorem encode_decode (bs : Bytes) : encode bs.length (decode bs) = bs := by
  induction bs with
  | nil => rfl
  | cons b bs ih =>
    have hb : b.toNat < 256 := b.toNat_lt
    have hq : (b.toNat + 256 * decode bs) / 256 = decode bs := by omega
    have hr : UInt8.ofNat (b.toNat + 256 * decode bs) = b := by
      apply UInt8.toNat_inj.1
      rw [UInt8.toNat_ofNat']
      omega
    simp only [List.length_cons, encode, decode, hq, hr, ih]

theorem decode_lt (bs : Bytes) : decode bs < Nat.pow 256 bs.length := by
  induction bs with
  | nil => simp [decode]
  | cons b bs ih =>
    have hb : b.toNat < 256 := b.toNat_lt
    rw [Nat.pow_eq] at ih ⊢
    simp only [decode, List.length_cons, Nat.pow_succ]
    omega

end LittleEndian

/-- An integer of a fixed number of bytes. Signed words are read in two's complement, so `toNat`
is the unsigned value of the same bits. -/
class Word (α : Type) where
  width : Nat
  toNat : α → Nat
  ofNat : Nat → α
  toNat_lt : ∀ x, toNat x < Nat.pow 256 width
  ofNat_toNat : ∀ x, ofNat (toNat x) = x
  toNat_ofNat : ∀ n, n < Nat.pow 256 width → toNat (ofNat n) = n

instance : Word UInt8 where
  width := 1
  toNat := UInt8.toNat
  ofNat := UInt8.ofNat
  toNat_lt x := x.toNat_lt
  ofNat_toNat x := UInt8.ofNat_toNat
  toNat_ofNat n h := by rw [UInt8.toNat_ofNat']; exact Nat.mod_eq_of_lt h

instance : Word UInt16 where
  width := 2
  toNat := UInt16.toNat
  ofNat := UInt16.ofNat
  toNat_lt x := x.toNat_lt
  ofNat_toNat x := UInt16.ofNat_toNat
  toNat_ofNat n h := by rw [UInt16.toNat_ofNat']; exact Nat.mod_eq_of_lt h

instance : Word UInt32 where
  width := 4
  toNat := UInt32.toNat
  ofNat := UInt32.ofNat
  toNat_lt x := x.toNat_lt
  ofNat_toNat x := UInt32.ofNat_toNat
  toNat_ofNat n h := by rw [UInt32.toNat_ofNat']; exact Nat.mod_eq_of_lt h

instance : Word UInt64 where
  width := 8
  toNat := UInt64.toNat
  ofNat := UInt64.ofNat
  toNat_lt x := x.toNat_lt
  ofNat_toNat x := UInt64.ofNat_toNat
  toNat_ofNat n h := by rw [UInt64.toNat_ofNat']; exact Nat.mod_eq_of_lt h

instance : Word Int8 where
  width := 1
  toNat x := x.toUInt8.toNat
  ofNat n := (UInt8.ofNat n).toInt8
  toNat_lt x := x.toUInt8.toNat_lt
  ofNat_toNat x := by rw [UInt8.ofNat_toNat]; rfl
  toNat_ofNat n h := by
    show (UInt8.ofNat n).toNat = n
    rw [UInt8.toNat_ofNat']; exact Nat.mod_eq_of_lt h

instance : Word Int16 where
  width := 2
  toNat x := x.toUInt16.toNat
  ofNat n := (UInt16.ofNat n).toInt16
  toNat_lt x := x.toUInt16.toNat_lt
  ofNat_toNat x := by rw [UInt16.ofNat_toNat]; rfl
  toNat_ofNat n h := by
    show (UInt16.ofNat n).toNat = n
    rw [UInt16.toNat_ofNat']; exact Nat.mod_eq_of_lt h

instance : Word Int32 where
  width := 4
  toNat x := x.toUInt32.toNat
  ofNat n := (UInt32.ofNat n).toInt32
  toNat_lt x := x.toUInt32.toNat_lt
  ofNat_toNat x := by rw [UInt32.ofNat_toNat]; rfl
  toNat_ofNat n h := by
    show (UInt32.ofNat n).toNat = n
    rw [UInt32.toNat_ofNat']; exact Nat.mod_eq_of_lt h

instance : Word Int64 where
  width := 8
  toNat x := x.toUInt64.toNat
  ofNat n := (UInt64.ofNat n).toInt64
  toNat_lt x := x.toUInt64.toNat_lt
  ofNat_toNat x := by rw [UInt64.ofNat_toNat]; rfl
  toNat_ofNat n h := by
    show (UInt64.ofNat n).toNat = n
    rw [UInt64.toNat_ofNat']; exact Nat.mod_eq_of_lt h

namespace Word

variable {α : Type} [Word α]

/-- The packed form of a word. -/
def encode (x : α) : Bytes := LittleEndian.encode (width α) (toNat x)

/-- The word that a run of bytes stands for. -/
def decode (bs : Bytes) : α := ofNat (LittleEndian.decode bs)

@[simp] theorem length_encode (x : α) : (encode x).length = width α :=
  LittleEndian.length_encode ..

@[simp] theorem decode_encode (x : α) : decode (encode x) = x := by
  rw [decode, encode, LittleEndian.decode_encode (toNat_lt x), ofNat_toNat]

theorem encode_decode {bs : Bytes} (h : bs.length = width α) : encode (decode bs : α) = bs := by
  have hlt := LittleEndian.decode_lt bs
  rw [h] at hlt
  rw [encode, decode, toNat_ofNat _ hlt, ← h, LittleEndian.encode_decode]

end Word

end RawReel
