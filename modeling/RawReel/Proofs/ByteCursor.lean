import RawReel.Proofs.BitReader

/-!
# Records are read byte by byte

* `Request`: the reads that records are made of, and `Primitives`: a way to serve them;
* `Served`: what a request comes to, told by the declared bytes alone;
* `Cursor.ask_served`: a cursor serves every request so, and stands where it ought
  to afterwards;
* `Mirrors`: a read of a source of bits that does what a read of a cursor does;
* `reads_count_bytes`: whatever was read before, a cursor and a reader that counts
  bits stand at the same whole byte, and give the same answers.
-/

namespace RawReel

/-- The words that records are made of. -/
inductive WordKind
  | u16
  | i16
  | u32
  | i32
  | u64

namespace WordKind

def width : WordKind → Nat
  | u16 | i16 => 2
  | u32 | i32 => 4
  | u64 => 8

def signed : WordKind → Bool
  | i16 | i32 => true
  | u16 | u32 | u64 => false

/-- The number that bytes stand for, least significant first; in two's complement,
if it has a sign. -/
def value (kind : WordKind) (found : Bytes) : Int :=
  let n : Int := LittleEndian.decode found
  let range : Int := 2 ^ (8 * kind.width)
  if kind.signed = true ∧ range ≤ 2 * n then n - range else n

/-- Reads a word as a number. -/
def read {m : Type → Type} [Monad m] (word : (α : Type) → [Word α] → m α) : WordKind → m Int
  | u16 => return (← word UInt16).toNat
  | i16 => return (← word Int16).toInt
  | u32 => return (← word UInt32).toNat
  | i32 => return (← word Int32).toInt
  | u64 => return (← word UInt64).toNat

end WordKind

/-- What can be asked for: a word, some bytes, or a run of signed words of four
bytes. -/
inductive Request
  | word (kind : WordKind)
  | bytes (count : Nat)
  | words (count : Nat)

/-- The bytes that are asked for make an array, and none is of `2 ^ 61` bytes or
more. -/
def Request.Fits : Request → Prop
  | bytes count => count < 2 ^ 61
  | word _ | words _ => True

inductive Answer
  | number (value : Int)
  | bytes (found : Bytes)
  | numbers (values : List Int)
  deriving DecidableEq

/-- The reads of one kind of reader, and what their failures tell. -/
structure Primitives (ε σ : Type) where
  word : (α : Type) → [Word α] → EStateM ε σ α
  fixed : (n : Nat) → EStateM ε σ (FixedBytes n)
  words : (α : Type) → [Word α] → (n : Nat) → EStateM ε σ (List α)
  failure : ε → IoError

namespace Primitives

variable {ε σ : Type} (reads : Primitives ε σ)

def read : Request → EStateM ε σ Answer
  | .word kind => return .number (← kind.read reads.word)
  | .bytes count => return .bytes (← reads.fixed count).bytes
  | .words count => return .numbers ((← reads.words Int32 count).map Int32.toInt)

/-- What a request comes to, and what it leaves behind. -/
def ask (request : Request) (s : σ) : Except IoError Answer × σ :=
  match reads.read request s with
  | .ok answer s' => (.ok answer, s')
  | .error e s' => (.error (reads.failure e), s')

theorem ask_of_ok (request : Request) {s s' : σ} {answer : Answer}
    (ok : reads.read request s = .ok answer s') : reads.ask request s = (.ok answer, s') := by
  rw [ask, ok]

theorem ask_of_error (request : Request) {s s' : σ} {e : ε}
    (failed : reads.read request s = .error e s') :
    reads.ask request s = (.error (reads.failure e), s') := by
  rw [ask, failed]

variable {α β : Type} {get : EStateM ε σ α} {s s' : σ}

theorem map_ok {x : α} (ok : get s = .ok x s') (f : α → β) :
    (do return f (← get) : EStateM ε σ β) s = .ok (f x) s' := by
  simp only [Bind.bind, EStateM.bind, ok]
  rfl

theorem map_error {e : ε} (failed : get s = .error e s') (f : α → β) :
    (do return f (← get) : EStateM ε σ β) s = .error e s' := by
  simp only [Bind.bind, EStateM.bind, failed]

/-- What is left after some requests, whether they succeeded or not. -/
def after (asked : List Request) (s : σ) : σ :=
  asked.foldl (fun s request => (reads.ask request s).2) s

end Primitives

def Cursor.reads : Primitives EndOfRecord Cursor :=
  ⟨Cursor.word, Cursor.fixed, Cursor.words, EndOfRecord.toIoError⟩

def BitReader.reads {σ : Type} [BitSource σ] : Primitives IoError (BitReader σ) :=
  ⟨BitReader.word, BitReader.fixed, BitReader.words, id⟩

/-- Some bytes of a record. -/
def Bytes.span (data : Bytes) (start count : Nat) : Bytes := (data.drop start).take count

theorem Bytes.length_span {data : Bytes} {start count : Nat}
    (within : start + count ≤ data.length) : (data.span start count).length = count := by
  rw [span, List.length_take, List.length_drop]
  omega

/-- What a request comes to at byte `start` of a record of `length` bytes, and the
byte that the next one starts at. -/
inductive Served (data : Bytes) (length start : Nat) :
    Request → Except IoError Answer → Nat → Prop
  | word {kind : WordKind} (fits : start + kind.width ≤ length) :
      Served data length start (.word kind)
        (.ok (.number (kind.value (data.span start kind.width)))) (start + kind.width)
  | noWord {kind : WordKind} (ends : length < start + kind.width) :
      Served data length start (.word kind)
        (.error ⟨.unexpectedEof, s!"get_n({8 * kind.width}): out of bounds at byte {start}"⟩)
        start
  | bytes {count : Nat} (fits : start + count ≤ length) :
      Served data length start (.bytes count) (.ok (.bytes (data.span start count)))
        (start + count)
  | noBytes {count : Nat} (ends : length < start + count) :
      Served data length start (.bytes count)
        (.error ⟨.unexpectedEof, s!"get_bytes({count}): out of bounds at byte {start}"⟩) start
  | words {count : Nat} (fits : start + 4 * count ≤ length) :
      Served data length start (.words count)
        (.ok (.numbers ((List.range count).map fun n =>
          WordKind.i32.value (data.span (start + 4 * n) 4))))
        (start + 4 * count)
  | noWords {count stop : Nat} (ends : length < start + 4 * count)
      (stop_eq : stop = start + 4 * ((length - start) / 4)) :
      Served data length start (.words count)
        (.error ⟨.unexpectedEof, s!"get_n({32}): out of bounds at byte {stop}"⟩) stop

namespace WordKind

/-- The upper half of the range stands for negative numbers. -/
theorem toInt_ofNat {w n : Nat} (small : n < 2 ^ w) :
    (BitVec.ofNat w n).toInt = if (2 : Int) ^ w ≤ 2 * n then (n : Int) - 2 ^ w else n := by
  have half : 2 * n < 2 ^ w ↔ ¬(2 : Int) ^ w ≤ 2 * n := by
    rw [Int.not_le]
    norm_cast
  rw [BitVec.toInt_eq_toNat_cond, BitVec.toNat_ofNat, Nat.mod_eq_of_lt small]
  by_cases low : 2 * n < 2 ^ w
  · rw [if_pos low, if_neg (half.mp low)]
  · rw [if_neg low, if_pos (not_not.mp (mt half.mpr low)), Nat.cast_pow, Nat.cast_ofNat]

theorem toInt_int16 {found : Bytes} (whole : found.length = 2) :
    (Word.decode found : Int16).toInt = i16.value found := by
  have small : LittleEndian.decode found < 2 ^ 16 := by
    simpa [whole] using LittleEndian.decode_lt found
  simp only [value, signed, width, true_and]
  exact toInt_ofNat small

theorem toInt_int32 {found : Bytes} (whole : found.length = 4) :
    (Word.decode found : Int32).toInt = i32.value found := by
  have small : LittleEndian.decode found < 2 ^ 32 := by
    simpa [whole] using LittleEndian.decode_lt found
  simp only [value, signed, width, true_and]
  exact toInt_ofNat small

theorem toNat_decode {α : Type} [Word α] {found : Bytes} (whole : found.length = Word.width α) :
    Word.toNat (Word.decode found : α) = LittleEndian.decode found :=
  Word.toNat_ofNat _ (whole ▸ LittleEndian.decode_lt found)

theorem value_of_unsigned {kind : WordKind} (unsigned : kind.signed = false) (found : Bytes) :
    kind.value found = LittleEndian.decode found := by
  simp [value, unsigned]

end WordKind

namespace Cursor

variable {data : Bytes} {length : Nat}

/-- A cursor stands at one of the declared bytes of a record, or at their end. -/
structure Within (data : Bytes) (length : Nat) (c : Cursor) : Prop where
  declared : length ≤ data.length
  rest_eq : c.rest = (data.take length).drop c.offset
  offset_le : c.offset ≤ length

theorem start_within (declared : length ≤ data.length) :
    Within data length (start data length) :=
  ⟨declared, rfl, Nat.zero_le _⟩

namespace Within

variable {c : Cursor}

theorem rest_length (stands : Within data length c) :
    c.rest.length = length - c.offset := by
  rw [stands.rest_eq, List.length_drop, List.length_take, Nat.min_eq_left stands.declared]

theorem available_eq (stands : Within data length c) :
    c.available = 8 * (length - c.offset) := by
  rw [available, stands.rest_length]

/-- The bytes that are read are bytes of the data. -/
theorem span_eq (stands : Within data length c) {count : Nat}
    (fits : c.offset + count ≤ length) : c.rest.take count = data.span c.offset count := by
  rw [stands.rest_eq, List.drop_take, List.take_take, Nat.min_eq_left (by omega), Bytes.span]

theorem drop (stands : Within data length c) {count : Nat} (fits : c.offset + count ≤ length) :
    Within data length ⟨c.rest.drop count, c.offset + count⟩ :=
  ⟨stands.declared, by rw [stands.rest_eq, List.drop_drop], fits⟩

variable {α : Type} [Word α]

theorem word_ok (stands : Within data length c)
    (fits : c.offset + Word.width α ≤ length) :
    word α c = .ok (Word.decode (data.span c.offset (Word.width α)))
      ⟨c.rest.drop (Word.width α), c.offset + Word.width α⟩ := by
  have enough : Word.width α ≤ c.rest.length := by
    rw [stands.rest_length]
    omega
  rw [word, if_pos enough, stands.span_eq fits]

theorem word_cut (stands : Within data length c)
    (ends : length < c.offset + Word.width α) :
    word α c = .error (.word (8 * Word.width α) c.offset) c := by
  have short : ¬Word.width α ≤ c.rest.length := by
    rw [stands.rest_length]
    have := stands.offset_le
    omega
  rw [word, if_neg short]

theorem fixed_ok (stands : Within data length c) {count : Nat}
    (fits : c.offset + count ≤ length) :
    ∃ found : FixedBytes count, found.bytes = data.span c.offset count ∧
      fixed count c = .ok found ⟨c.rest.drop count, c.offset + count⟩ := by
  have enough : count ≤ c.rest.length := by
    rw [stands.rest_length]
    omega
  exact ⟨_, stands.span_eq fits, dif_pos enough⟩

theorem fixed_cut (stands : Within data length c) {count : Nat}
    (ends : length < c.offset + count) : fixed count c = .error (.bytes count c.offset) c := by
  have short : ¬count ≤ c.rest.length := by
    rw [stands.rest_length]
    have := stands.offset_le
    omega
  rw [fixed, dif_neg short]

theorem words_ok (stands : Within data length c) {count : Nat}
    (fits : c.offset + 4 * count ≤ length) :
    words Int32 count c =
      .ok ((List.range count).map fun n => Word.decode (data.span (c.offset + 4 * n) 4))
        ⟨c.rest.drop (4 * count), c.offset + 4 * count⟩ := by
  induction count generalizing c with
  | zero => rfl
  | succ count ih =>
    have first : c.offset + 4 ≤ length := by omega
    have ok : word Int32 c = .ok (Word.decode (data.span c.offset 4))
        ⟨c.rest.drop 4, c.offset + 4⟩ := stands.word_ok first
    have later := ih (stands.drop first) (by dsimp only; omega)
    simp only [words, Bind.bind, EStateM.bind, ok, later, Pure.pure, EStateM.pure,
      List.drop_drop, List.range_succ_eq_map, List.map_cons, List.map_map, Function.comp_def,
      Nat.mul_succ, Nat.mul_zero, Nat.add_zero, Nat.add_assoc, Nat.add_comm 4]

/-- **A run of words ends at the first that does not fit**: those in front of it are
taken. -/
theorem words_cut (stands : Within data length c) {count : Nat}
    (ends : length < c.offset + 4 * count) :
    ∃ c', words Int32 count c = .error (.word 32 c'.offset) c' ∧ Within data length c' ∧
      c'.offset = c.offset + 4 * ((length - c.offset) / 4) := by
  induction count generalizing c with
  | zero => exact absurd stands.offset_le (Nat.not_le_of_lt ends)
  | succ count ih =>
    by_cases first : c.offset + 4 ≤ length
    · have ok : word Int32 c = .ok (Word.decode (data.span c.offset 4))
          ⟨c.rest.drop 4, c.offset + 4⟩ := stands.word_ok first
      obtain ⟨c', later, stands', offset_eq⟩ :=
        ih (stands.drop first) (by dsimp only; omega)
      refine ⟨c', ?_, stands', ?_⟩
      · simp only [words, Bind.bind, EStateM.bind, ok, later]
      · dsimp only at offset_eq
        omega
    · have cut : word Int32 c = .error (.word 32 c.offset) c :=
        stands.word_cut (Nat.lt_of_not_le first)
      refine ⟨c, ?_, stands, by omega⟩
      simp only [words, Bind.bind, EStateM.bind, cut]

/-- **A word is read as the number** that its bytes stand for. -/
theorem read_ok (stands : Within data length c)
    {kind : WordKind} (fits : c.offset + kind.width ≤ length) :
    kind.read word c = .ok (kind.value (data.span c.offset kind.width))
      ⟨c.rest.drop kind.width, c.offset + kind.width⟩ := by
  have whole : (data.span c.offset kind.width).length = kind.width :=
    Bytes.length_span (fits.trans stands.declared)
  cases kind with
  | u16 =>
    rw [WordKind.value_of_unsigned rfl, ← WordKind.toNat_decode (α := UInt16) whole]
    exact Primitives.map_ok (stands.word_ok fits) fun x : UInt16 => (x.toNat : Int)
  | i16 =>
    rw [← WordKind.toInt_int16 whole]
    exact Primitives.map_ok (stands.word_ok fits) Int16.toInt
  | u32 =>
    rw [WordKind.value_of_unsigned rfl, ← WordKind.toNat_decode (α := UInt32) whole]
    exact Primitives.map_ok (stands.word_ok fits) fun x : UInt32 => (x.toNat : Int)
  | i32 =>
    rw [← WordKind.toInt_int32 whole]
    exact Primitives.map_ok (stands.word_ok fits) Int32.toInt
  | u64 =>
    rw [WordKind.value_of_unsigned rfl, ← WordKind.toNat_decode (α := UInt64) whole]
    exact Primitives.map_ok (stands.word_ok fits) fun x : UInt64 => (x.toNat : Int)

theorem read_cut (stands : Within data length c)
    {kind : WordKind} (ends : length < c.offset + kind.width) :
    kind.read word c = .error (.word (8 * kind.width) c.offset) c := by
  cases kind with
  | u16 => exact Primitives.map_error (stands.word_cut ends) fun x : UInt16 => (x.toNat : Int)
  | i16 => exact Primitives.map_error (stands.word_cut ends) Int16.toInt
  | u32 => exact Primitives.map_error (stands.word_cut ends) fun x : UInt32 => (x.toNat : Int)
  | i32 => exact Primitives.map_error (stands.word_cut ends) Int32.toInt
  | u64 => exact Primitives.map_error (stands.word_cut ends) fun x : UInt64 => (x.toNat : Int)

/-- **Every request is served from the declared bytes**, and the cursor stands
behind what it took. -/
theorem ask_served (stands : Within data length c)
    (request : Request) :
    Served data length c.offset request (reads.ask request c).1 (reads.ask request c).2.offset ∧
      Within data length (reads.ask request c).2 := by
  cases request with
  | word kind =>
    by_cases fits : c.offset + kind.width ≤ length
    · rw [reads.ask_of_ok (.word kind) (Primitives.map_ok (stands.read_ok fits) _)]
      exact ⟨.word fits, stands.drop fits⟩
    · have ends := Nat.lt_of_not_le fits
      rw [reads.ask_of_error (.word kind) (Primitives.map_error (stands.read_cut ends) _)]
      exact ⟨.noWord ends, stands⟩
  | bytes count =>
    by_cases fits : c.offset + count ≤ length
    · obtain ⟨found, found_eq, ok⟩ := stands.fixed_ok fits
      rw [reads.ask_of_ok (.bytes count) (Primitives.map_ok ok _), found_eq]
      exact ⟨.bytes fits, stands.drop fits⟩
    · have ends := Nat.lt_of_not_le fits
      rw [reads.ask_of_error (.bytes count) (Primitives.map_error (stands.fixed_cut ends) _)]
      exact ⟨.noBytes ends, stands⟩
  | words count =>
    by_cases fits : c.offset + 4 * count ≤ length
    · have values : ((List.range count).map fun n =>
            (Word.decode (data.span (c.offset + 4 * n) 4) : Int32)).map Int32.toInt =
          (List.range count).map fun n => WordKind.i32.value (data.span (c.offset + 4 * n) 4) := by
        rw [List.map_map]
        refine List.map_congr_left fun n among => WordKind.toInt_int32 (Bytes.length_span ?_)
        have := List.mem_range.mp among
        have := stands.declared
        omega
      rw [reads.ask_of_ok (.words count) (Primitives.map_ok (stands.words_ok fits) _), values]
      exact ⟨.words fits, stands.drop fits⟩
    · have ends := Nat.lt_of_not_le fits
      obtain ⟨c', failed, stands', offset_eq⟩ := stands.words_cut ends
      rw [reads.ask_of_error (.words count) (Primitives.map_error failed _)]
      exact ⟨.noWords ends offset_eq, stands'⟩

end Within

/-- Wherever a cursor stands in a record, it stood at the start of it. -/
theorem after_within {c : Cursor} (stands : Within data length c)
    (asked : List Request) : Within data length (reads.after asked c) := by
  induction asked generalizing c with
  | nil => exact stands
  | cons request asked ih => exact ih (stands.ask_served request).2

end Cursor

namespace BitReader

variable {σ : Type} [BitSource σ] {data : Bytes} {length : Nat} {At : Nat → σ → Prop}

/-- A reader counts bits up to the byte where a cursor stands in the same record. -/
structure Follows (data : Bytes) (length : Nat) (At : Nat → σ → Prop) (c : Cursor)
    (r : BitReader σ) : Prop where
  stands : c.Within data length
  small : length < 2 ^ 61
  faithful : BitSource.Faithful data At
  length_eq : r.length = UInt64.ofNat (8 * length)
  place : At (8 * c.offset) r.source

/-- Both reads come to the same, and leave both readers at one byte. -/
inductive Same (data : Bytes) (length : Nat) (At : Nat → σ → Prop) {α : Type} :
    EStateM.Result EndOfRecord Cursor α → EStateM.Result IoError (BitReader σ) α → Prop
  | ok (x : α) {c : Cursor} {r : BitReader σ} (follows : Follows data length At c r) :
      Same data length At (.ok x c) (.ok x r)
  | error (e : EndOfRecord) {c : Cursor} {r : BitReader σ} (follows : Follows data length At c r) :
      Same data length At (.error e c) (.error e.toIoError r)

/-- A read of a reader that counts bits does what one of a cursor does. -/
def Mirrors (data : Bytes) (length : Nat) (At : Nat → σ → Prop) {α : Type}
    (read : Cursor.Read α) (read' : Read σ α) : Prop :=
  ∀ c r, Follows data length At c r → Same data length At (read c) (read' r)

theorem mirrors_pure {α : Type} (x : α) : Mirrors data length At (pure x) (pure x) :=
  fun _ _ follows => .ok x follows

theorem Mirrors.bind {α β : Type} {read : Cursor.Read α} {read' : Read σ α}
    {next : α → Cursor.Read β} {next' : α → Read σ β} (mirrors : Mirrors data length At read read')
    (later : ∀ x, Mirrors data length At (next x) (next' x)) :
    Mirrors data length At (read >>= next) (read' >>= next') := by
  intro c r follows
  have first := mirrors c r follows
  simp only [Bind.bind, EStateM.bind]
  generalize read c = result at first
  generalize read' r = result' at first
  cases first with
  | ok x follows' => exact later x _ _ follows'
  | error e follows' => exact .error e follows'

namespace Follows

variable {c : Cursor} {r : BitReader σ} {count : Nat}

theorem move (follows : Follows data length At c r) {s : σ} (fits : c.offset + count ≤ length)
    (place : At (8 * c.offset + 8 * count) s) :
    Follows data length At ⟨c.rest.drop count, c.offset + count⟩ { r with source := s } where
  stands := follows.stands.drop fits
  small := follows.small
  faithful := follows.faithful
  length_eq := follows.length_eq
  place := Nat.mul_add 8 c.offset count ▸ place

/-- The byte that a failure tells is the one that was to be read. -/
theorem byte_eq (follows : Follows data length At c r) :
    (UInt64.ofNat (8 * c.offset) >>> 3).toNat = c.offset := by
  have at_most := follows.stands.offset_le
  have small := follows.small
  have fits : 8 * c.offset < UInt64.size := by
    rw [UInt64.size]
    omega
  rw [UInt64.toNat_shiftRight, UInt64.toNat_ofNat_of_lt' fits]
  change (8 * c.offset) >>> 3 = c.offset
  rw [Nat.shiftRight_eq_div_pow]
  omega

/-- Counted in bits as in bytes, a read asks for more than there is. -/
theorem lacks_iff (follows : Follows data length At c r) (narrow : count < 2 ^ 61) :
    UInt64.ofNat c.available < UInt64.ofNat (8 * count) ↔ length < c.offset + count := by
  have at_most := follows.stands.offset_le
  have small := follows.small
  have left : 8 * (length - c.offset) < UInt64.size := by
    rw [UInt64.size]
    omega
  have asked : 8 * count < UInt64.size := by
    rw [UInt64.size]
    omega
  rw [follows.stands.available_eq, UInt64.ofNat_lt_iff_lt left asked]
  omega

/-- The place is told as a whole number of bytes. -/
theorem position_ok (follows : Follows data length At c r) :
    ∃ r', position r = .ok (UInt64.ofNat c.position) r' ∧ Follows data length At c r' := by
  obtain ⟨s, told, place⟩ := follows.faithful.position follows.place
  refine ⟨{ r with source := s }, ?_, { follows with place }⟩
  rw [position, fromSource, told]
  rfl

theorem available_ok (follows : Follows data length At c r) :
    ∃ r', available r = .ok (UInt64.ofNat c.available) r' ∧ Follows data length At c r' := by
  obtain ⟨r', told, follows'⟩ := follows.position_ok
  refine ⟨r', ?_, follows'⟩
  have ends : c.position ≤ 8 * length := Nat.mul_le_mul_left 8 follows.stands.offset_le
  simp only [available, Bind.bind, EStateM.bind, told, follows.stands.available_eq]
  rw [Nat.mul_sub, ← Cursor.position, UInt64.ofNat_sub ends, ← follows'.length_eq]
  rfl

theorem number_ok (follows : Follows data length At c r) (narrow : count ≤ 8)
    (fits : c.offset + count ≤ length) :
    ∃ r', number (8 * count) r = .ok (LittleEndian.decode (data.span c.offset count)) r' ∧
      Follows data length At ⟨c.rest.drop count, c.offset + count⟩ r' := by
  have declared := follows.stands.declared
  obtain ⟨r₁, told, follows₁⟩ := follows.available_ok
  have lacks := (follows₁.lacks_iff (by omega)).not.mpr (Nat.not_lt_of_le fits)
  obtain ⟨s, ok, place⟩ :=
    follows₁.faithful.number follows₁.place (8 * count) (by omega) (by omega)
  refine ⟨{ r₁ with source := s }, ?_, follows₁.move fits place⟩
  simp only [number, Bind.bind, EStateM.bind, told, if_neg lacks]
  rw [fromSource, ok, Bits.number_bytes (fits.trans declared), Bytes.span]

theorem number_cut (follows : Follows data length At c r) (narrow : count ≤ 8)
    (ends : length < c.offset + count) :
    ∃ r', number (8 * count) r = .error (EndOfRecord.word (8 * count) c.offset).toIoError r' ∧
      Follows data length At c r' := by
  obtain ⟨r₁, told, follows₁⟩ := follows.available_ok
  obtain ⟨r₂, told', follows₂⟩ := follows₁.position_ok
  have lacks := (follows₁.lacks_iff (by omega)).mpr ends
  refine ⟨r₂, ?_, follows₂⟩
  simp only [number, Bind.bind, EStateM.bind, told, if_pos lacks, told', Cursor.position,
    follows.byte_eq]
  rfl

end Follows

/-- **A word is read from its bits** just as from its bytes. -/
theorem mirrors_word {α : Type} [Word α] (narrow : Word.width α ≤ 8) :
    Mirrors data length At (Cursor.word α) (word α) := by
  intro c r follows
  by_cases fits : c.offset + Word.width α ≤ length
  · obtain ⟨r', ok, follows'⟩ := follows.number_ok narrow fits
    rw [follows.stands.word_ok fits, word, Primitives.map_ok ok]
    exact .ok _ follows'
  · have ends := Nat.lt_of_not_le fits
    obtain ⟨r', failed, follows'⟩ := follows.number_cut narrow ends
    rw [follows.stands.word_cut ends, word, Primitives.map_error failed]
    exact .error _ follows'

theorem mirrors_words {α : Type} [Word α] (narrow : Word.width α ≤ 8) (count : Nat) :
    Mirrors data length At (Cursor.words α count) (words α count) := by
  induction count with
  | zero => exact mirrors_pure []
  | succ count ih =>
    exact (mirrors_word narrow).bind fun x => ih.bind fun xs => mirrors_pure (x :: xs)

theorem mirrors_fixed {count : Nat} (narrow : count < 2 ^ 61) :
    Mirrors data length At (Cursor.fixed count) (fixed count) := by
  intro c r follows
  have declared := follows.stands.declared
  obtain ⟨r₁, told, follows₁⟩ := follows.available_ok
  have lacks_iff := follows₁.lacks_iff narrow
  by_cases fits : c.offset + count ≤ length
  · obtain ⟨found, found_eq, taken⟩ := follows.stands.fixed_ok fits
    obtain ⟨found', s, ok, found'_eq, place⟩ :=
      follows₁.faithful.bytes follows₁.place count (by omega)
    have same : found' = found := by
      apply FixedBytes.ext
      rw [found'_eq, found_eq, Bits.bytes_eq (fits.trans declared), Bytes.span]
    have read : fixed count r = .ok found { r₁ with source := s } := by
      have lacks := lacks_iff.not.mpr (Nat.not_lt_of_le fits)
      simp only [fixed, Bind.bind, EStateM.bind, told, ofNat_shiftLeft, if_neg lacks]
      rw [fromSource, ok, same]
    rw [taken, read]
    exact .ok found (follows₁.move fits place)
  · have ends := Nat.lt_of_not_le fits
    obtain ⟨r₂, told', follows₂⟩ := follows₁.position_ok
    have read : fixed count r = .error (EndOfRecord.bytes count c.offset).toIoError r₂ := by
      simp only [fixed, Bind.bind, EStateM.bind, told, ofNat_shiftLeft,
        if_pos (lacks_iff.mpr ends), told', Cursor.position, follows.byte_eq]
      rfl
    rw [follows.stands.fixed_cut ends, read]
    exact .error _ follows₂

theorem mirrors_kind (kind : WordKind) :
    Mirrors data length At (kind.read Cursor.word) (kind.read word) := by
  have as_number {α : Type} [Word α] (narrow : Word.width α ≤ 8) (number : α → Int) :
      Mirrors data length At (do return number (← Cursor.word α)) (do return number (← word α)) :=
    (mirrors_word narrow).bind fun x => mirrors_pure (number x)
  cases kind with
  | u16 => exact as_number (by decide) fun x : UInt16 => (x.toNat : Int)
  | i16 => exact as_number (by decide) Int16.toInt
  | u32 => exact as_number (by decide) fun x : UInt32 => (x.toNat : Int)
  | i32 => exact as_number (by decide) Int32.toInt
  | u64 => exact as_number (by decide) fun x : UInt64 => (x.toNat : Int)

theorem mirrors_read {request : Request} (fits : request.Fits) :
    Mirrors data length At (Cursor.reads.read request) (reads.read request) := by
  cases request with
  | word kind => exact (mirrors_kind kind).bind fun x => mirrors_pure (Answer.number x)
  | bytes count =>
    exact (mirrors_fixed fits).bind fun found => mirrors_pure (Answer.bytes found.bytes)
  | words count =>
    exact (mirrors_words (by decide) count).bind fun found =>
      mirrors_pure (Answer.numbers (found.map Int32.toInt))

/-- Readers at one byte give one answer, and stand at one byte afterwards. -/
theorem Follows.ask {c : Cursor} {r : BitReader σ} (follows : Follows data length At c r)
    {request : Request} (fits : request.Fits) :
    (reads.ask request r).1 = (Cursor.reads.ask request c).1 ∧
      Follows data length At (Cursor.reads.ask request c).2 (reads.ask request r).2 := by
  have same := mirrors_read fits c r follows
  unfold Primitives.ask
  generalize Cursor.reads.read request c = result at same
  generalize reads.read request r = result' at same
  cases same with
  | ok x follows' => exact ⟨rfl, follows'⟩
  | error e follows' => exact ⟨rfl, follows'⟩

theorem Follows.after {c : Cursor} {r : BitReader σ} (follows : Follows data length At c r)
    {asked : List Request} (fit : ∀ request ∈ asked, request.Fits) :
    Follows data length At (Cursor.reads.after asked c) (reads.after asked r) := by
  induction asked generalizing c r with
  | nil => exact follows
  | cons request asked ih =>
    have first := (follows.ask (fit request List.mem_cons_self)).2
    exact ih first fun later among => fit later (List.mem_cons_of_mem request among)

theorem start_follows {source : σ} (declared : length ≤ data.length) (small : length < 2 ^ 61)
    (faithful : BitSource.Faithful data At) (fresh : At 0 source) :
    Follows data length At (Cursor.start data length) (start source length) where
  stands := Cursor.start_within declared
  small := small
  faithful := faithful
  length_eq := ofNat_shiftLeft length
  place := fresh

end BitReader

/-- **Records are read byte by byte**, whatever was read of them before: from the
declared bytes alone, all or nothing, and with every failure at the byte where it
happens. A reader that counts bits in words does the same. -/
theorem reads_count_bytes {data : Bytes} {length : Nat} (declared : length ≤ data.length)
    (asked : List Request) :
    let c := Cursor.reads.after asked (Cursor.start data length)
    (c.offset ≤ length ∧ c.position = 8 * c.offset ∧ c.position + c.available = 8 * length) ∧
    (∀ request, Served data length c.offset request (Cursor.reads.ask request c).1
      (Cursor.reads.ask request c).2.offset) ∧
    (∀ other : Bytes, other.take length = data.take length →
      Cursor.reads.after asked (Cursor.start other length) = c) ∧
    ∀ {σ : Type} [BitSource σ] {At : Nat → σ → Prop} {source : σ},
      BitSource.Faithful data At → At 0 source → length < 2 ^ 61 →
      (∀ request ∈ asked, request.Fits) →
      let r := BitReader.reads.after asked (BitReader.start source length)
      (∃ r', BitReader.position r = .ok (UInt64.ofNat c.position) r') ∧
      (∃ r', BitReader.available r = .ok (UInt64.ofNat c.available) r') ∧
      ∀ request, request.Fits →
        (BitReader.reads.ask request r).1 = (Cursor.reads.ask request c).1 := by
  intro c
  have stands : c.Within data length := Cursor.after_within (Cursor.start_within declared) asked
  refine ⟨⟨stands.offset_le, rfl, ?_⟩, fun request => (stands.ask_served request).1, ?_, ?_⟩
  · have at_most := stands.offset_le
    rw [stands.available_eq, Cursor.position]
    omega
  · intro other same
    have starts : Cursor.start other length = Cursor.start data length := by
      rw [Cursor.start, Cursor.start, same]
    rw [starts]
  · intro σ _ At source faithful fresh small fit r
    have follows : BitReader.Follows data length At c r :=
      (BitReader.start_follows declared small faithful fresh).after fit
    obtain ⟨r₁, position, _⟩ := follows.position_ok
    obtain ⟨r₂, available, _⟩ := follows.available_ok
    exact ⟨⟨r₁, position⟩, ⟨r₂, available⟩, fun request fits => (follows.ask fits).1⟩

/-- Seven of eight bytes are declared. Of two words that are asked for behind the
first two bytes, one is taken; then a byte is left, which is no short word, and can
be read still. -/
theorem reads_count_bytes_cut_short :
    let data : Bytes := [0xfe, 0xff, 1, 0, 0, 0x80, 7, 8]
    let asked : List Request := [.word .i16, .words 2, .word .u16]
    let r := BitReader.reads.after asked (BitReader.start (MemoryBits.mk data 0) 7)
    (∃ r', BitReader.position r = .ok 48 r') ∧ (∃ r', BitReader.available r = .ok 8 r') ∧
      (BitReader.reads.ask (.words 2) r).1 =
        .error ⟨.unexpectedEof, "get_n(32): out of bounds at byte 6"⟩ ∧
      (BitReader.reads.ask (.bytes 1) r).1 = .ok (.bytes [7]) := by
  intro data asked r
  have fit : ∀ request ∈ asked, request.Fits := by simp [asked, Request.Fits]
  obtain ⟨_, _, _, bits⟩ := @reads_count_bytes data 7 (by decide) asked
  obtain ⟨position, available, same⟩ := bits (MemoryBits.faithful data) rfl (by decide) fit
  refine ⟨position, available, ?_, ?_⟩
  · rw [same (.words 2) trivial]
    cbv
  · rw [same (.bytes 1) (by simp [Request.Fits])]
    rfl

end RawReel
