import RawReel.Stream.Memory

/-!
# Streams that depend only on where they stand

A stream may fail at some places, hand out its bytes in portions of any size and
be interrupted. As long as what it gives depends on where it stands and not on
how it got there, it is a stream of some source:

* `Source`: some bytes, and the places where a read of them fails;
* `Source.fill`: what reading until enough was read gives is told by the source;
* `MemoryStream.source`: streams in memory whose seeks do not fail have a source.
-/

namespace RawReel

/-- Bytes, and the places where a read fails instead of giving them. `At` tells
which streams are streams of the source, and where each of them stands. A read
gives some of the bytes that come next, up to the next fault, and no bytes at all
only from the end of the data on. -/
structure Source (σ : Type) [ByteStream σ] where
  data : Bytes
  fault : Nat → Option IoError
  At : σ → Nat → Prop
  seek : ∀ {s p} (target : Nat), At s p →
    ∃ s', ByteStream.seek s target = (.ok (), s') ∧ At s' target
  delivered : ∀ {s p want bytes s'}, At s p → 0 < want →
    ByteStream.read s want = (.delivered bytes, s') →
    bytes <+: data.drop p ∧ At s' (p + bytes.length) ∧ (bytes = [] → data.length ≤ p) ∧
      fault p = none ∧ ∀ n < bytes.length, fault (p + n) = none
  interrupted : ∀ {s p want s'}, At s p → 0 < want →
    ByteStream.read s want = (.interrupted, s') → At s' p
  failed : ∀ {s p want cause s'}, At s p → 0 < want →
    ByteStream.read s want = (.failed cause, s') → fault p = some cause ∧ ∃ q, At s' q

namespace Source

section
variable {σ : Type} [ByteStream σ]

/-- The `want` bytes from place `p` on, as far as there are any and none of them
is at a fault, and the fault that was met. -/
def supply (source : Source σ) (p : Nat) : (want : Nat) → Bytes × Except IoError Unit
  | 0 => ([], .ok ())
  | want + 1 =>
    match source.fault p, source.data[p]? with
    | some cause, _ => ([], .error cause)
    | none, none => ([], .ok ())
    | none, some b =>
      let (rest, outcome) := supply source (p + 1) want
      (b :: rest, outcome)

theorem supply_fault {source : Source σ} {p want : Nat} {cause : IoError} (positive : 0 < want)
    (there : source.fault p = some cause) : source.supply p want = ([], .error cause) := by
  obtain ⟨want, rfl⟩ := Nat.exists_eq_add_one.mpr positive
  simp only [supply, there]

theorem supply_end {source : Source σ} {p : Nat} (sound : source.fault p = none)
    (past : source.data.length ≤ p) (want : Nat) : source.supply p want = ([], .ok ()) := by
  cases want with
  | zero => rfl
  | succ want => simp only [supply, sound, List.getElem?_eq_none past]

/-- Bytes that were given are what the source has there, and what comes after
them is asked of it next. -/
theorem supply_append {source : Source σ} {p want : Nat} {bytes : Bytes}
    (next : bytes <+: source.data.drop p)
    (sound : ∀ n < bytes.length, source.fault (p + n) = none) (le : bytes.length ≤ want) :
    source.supply p want =
      let rest := source.supply (p + bytes.length) (want - bytes.length)
      (bytes ++ rest.1, rest.2) := by
  induction bytes generalizing p want with
  | nil => rfl
  | cons b bytes ih =>
    obtain ⟨want, rfl⟩ : ∃ more, want = more + 1 := Nat.exists_eq_add_one.mpr (by
      rw [List.length_cons] at le
      omega)
    obtain ⟨later, next⟩ := next
    have here : source.fault p = none := sound 0 (Nat.succ_pos _)
    have byte : source.data[p]? = some b := by
      rw [← List.head?_drop, ← next]
      rfl
    have behind : source.data.drop (p + 1) = bytes ++ later := by
      rw [← List.drop_drop, ← next]
      rfl
    have sound' : ∀ n < bytes.length, source.fault (p + 1 + n) = none := by
      intro n lt
      have at_n := sound (n + 1) (Nat.succ_lt_succ lt)
      rwa [Nat.add_comm n 1, ← Nat.add_assoc] at at_n
    have place : p + 1 + bytes.length = p + (b :: bytes).length := by
      rw [List.length_cons]
      omega
    have left : want - bytes.length = want + 1 - (b :: bytes).length := by
      rw [List.length_cons, Nat.add_sub_add_right]
    rw [supply, here, byte]
    dsimp only
    rw [ih ⟨later, behind.symm⟩ sound' (Nat.le_of_succ_le_succ le), place, left]
    rfl

/-- Without faults, a source gives the bytes that stand there. -/
theorem supply_sound (source : Source σ) (sound : ∀ p, source.fault p = none) (p want : Nat) :
    source.supply p want = ((source.data.drop p).take want, .ok ()) := by
  by_cases enough : want ≤ (source.data.drop p).length
  · have le : ((source.data.drop p).take want).length = want := List.length_take_of_le enough
    rw [supply_append (List.take_prefix ..) (fun n _ => sound _) (Nat.le_of_eq le), le,
      Nat.sub_self]
    dsimp only [supply]
    rw [List.append_nil]
  · have short := Nat.le_of_not_le enough
    have past : source.data.length ≤ p + (source.data.drop p).length := by
      rw [List.length_drop]
      omega
    rw [supply_append List.prefix_rfl (fun n _ => sound _) short, supply_end (sound _) past,
      List.take_of_length_le short]
    dsimp only
    rw [List.append_nil]

/-- **Only the source tells what is read.** Reading `want` bytes gives what the
source has there, whatever the portions were. -/
theorem fill (source : Source σ) {s : σ} {p : Nat} (stands : source.At s p) (want : Nat) :
    let filled := ByteStream.fill s want
    filled.received = (source.supply p want).1 ∧ filled.outcome = (source.supply p want).2 ∧
      (filled.outcome = .ok () → source.At filled.stream (p + filled.received.length)) ∧
      ∃ q, source.At filled.stream q := by
  fun_induction ByteStream.fill s want generalizing p with
  | case1 s => exact ⟨rfl, rfl, fun _ => stands, p, stands⟩
  | case2 s want nonzero s' got =>
    obtain ⟨_, at_p, ended, sound, _⟩ :=
      source.delivered stands (Nat.pos_of_ne_zero nonzero) got
    rw [supply_end sound (ended rfl)]
    exact ⟨rfl, rfl, fun _ => at_p, _, at_p⟩
  | case3 s want nonzero b bytes s' got rest =>
    rename_i ih
    obtain ⟨next, at_p, _, _, sound⟩ := source.delivered stands (Nat.pos_of_ne_zero nonzero) got
    obtain ⟨received, outcome, behind, at_some⟩ := ih at_p
    rw [supply_append next sound (ByteStream.length_le got)]
    refine ⟨?_, outcome, fun ok => ?_, at_some⟩
    · dsimp only
      rw [received]
    · have at_end := behind ok
      rwa [Nat.add_assoc, ← List.length_append] at at_end
  | case4 s want nonzero s' got ih =>
    exact ih (source.interrupted stands (Nat.pos_of_ne_zero nonzero) got)
  | case5 s want nonzero cause s' got =>
    obtain ⟨there, at_some⟩ := source.failed stands (Nat.pos_of_ne_zero nonzero) got
    rw [supply_fault (Nat.pos_of_ne_zero nonzero) there]
    exact ⟨rfl, rfl, nofun, at_some⟩

end

end Source

namespace MemoryStream

theorem capped_eq_zero {bound : Nat} {cap : Option Nat} (positive : cap ≠ some 0)
    (zero : capped bound cap = 0) : bound = 0 := by
  match cap, positive, zero with
  | none, _, zero => exact zero
  | some (cap + 1), _, zero =>
    simp only [capped, Option.elim_some] at zero
    omega

/-- Where a read of a stream in memory fails. -/
def faultFrom (failReadAt : Option Nat) (p : Nat) : Option IoError :=
  if failReadAt.any (· ≤ p) then some readFailure else none

theorem faultFrom_eq_none {failReadAt : Option Nat} {bound p : Nat}
    (before : p < capped bound failReadAt) : faultFrom failReadAt p = none := by
  cases failReadAt with
  | none => rfl
  | some limit =>
    simp only [capped, Option.elim_some] at before
    exact if_neg (by simp only [Option.any_some, decide_eq_true_eq]; omega)

theorem le_of_capped_le {failReadAt : Option Nat} {bound p : Nat}
    (sound : faultFrom failReadAt p = none) (le : capped bound failReadAt ≤ p) : bound ≤ p := by
  cases failReadAt with
  | none => exact le
  | some limit =>
    simp only [capped, Option.elim_some] at le
    by_cases fails : limit ≤ p
    · simp only [faultFrom, Option.any_some, fails, decide_true, ↓reduceIte] at sound
      cases sound
    · omega

/-- What a stream in memory is a stream of, if its seeks do not fail: the bytes
that can be read, and the place from which on every read fails. -/
def source (data : Bytes) (readable failReadAt : Option Nat) : Source MemoryStream where
  data := data.take (capped data.length readable)
  fault := faultFrom failReadAt
  At s p := s.data = data ∧ s.readable = readable ∧ s.failReadAt = failReadAt ∧ s.position = p ∧
    s.failSeekFrom = none ∧ s.portion ≠ some 0
  seek := by
    rintro s p target ⟨rfl, rfl, rfl, rfl, seeks, moves⟩
    refine ⟨{ s with seeks := s.seeks + 1, position := target }, ?_, rfl, rfl, rfl, rfl, seeks,
      moves⟩
    simp only [ByteStream.seek, seekTo, seeks, Option.any_none, Bool.false_eq_true, ↓reduceIte]
  delivered := by
    rintro s p want bytes s' ⟨rfl, rfl, rfl, rfl, seeks, moves⟩ positive got
    change s.readUpTo want = _ at got
    unfold readUpTo at got
    split at got
    · cases got
    · split at got
      · cases got
      · next fails =>
        cases got
        have within := capped_le (min want (s.readEnd - s.position)) s.portion
        have readEnd_le : s.readEnd ≤ capped s.data.length s.readable := capped_le ..
        have served_le : capped s.data.length s.readable ≤ s.data.length := capped_le ..
        generalize count_eq : capped (min want (s.readEnd - s.position)) s.portion = count at *
        have here : faultFrom s.failReadAt s.position = none := if_neg fails
        have length_eq : ((s.data.drop s.position).take count).length = count := by
          rw [List.length_take, List.length_drop]
          omega
        refine ⟨?_, ⟨rfl, rfl, rfl, ?_, seeks, moves⟩, ?_, here, ?_⟩
        · rw [List.drop_take]
          exact List.take_prefix_take_left (by omega)
        · rw [length_eq]
        · intro empty
          rw [empty] at length_eq
          subst length_eq
          have nothing_left := capped_eq_zero moves count_eq
          rw [List.length_take_of_le served_le]
          exact le_of_capped_le here (show s.readEnd ≤ s.position by omega)
        · intro n lt
          rw [length_eq] at lt
          exact faultFrom_eq_none (show s.position + n < s.readEnd by omega)
  interrupted := by
    rintro s p want s' ⟨rfl, rfl, rfl, rfl, seeks, moves⟩ _ got
    change s.readUpTo want = _ at got
    unfold readUpTo at got
    split at got
    · cases got
      exact ⟨rfl, rfl, rfl, rfl, seeks, moves⟩
    · split at got <;> cases got
  failed := by
    rintro s p want cause s' ⟨rfl, rfl, rfl, rfl, seeks, moves⟩ _ got
    change s.readUpTo want = _ at got
    unfold readUpTo at got
    split at got
    · cases got
    · split at got
      · next fails =>
        cases got
        exact ⟨if_pos fails, s.position, rfl, rfl, rfl, rfl, seeks, moves⟩
      · cases got

end MemoryStream

end RawReel
