import RawReel.Stream

/-!
A stream over bytes in memory. It can be told to hand out its bytes in small portions, to interrupt
its first reads, to end early, to misreport its length, and to fail from some place or seek on.
-/

namespace RawReel

structure MemoryStream where
  data : Bytes
  position : Nat
  /-- The offset of the end, as seeking tells it; the length of the data by default. -/
  reportedEnd : Option Nat
  /-- The most bytes that one read gives. -/
  portion : Option Nat
  /-- How many reads are still to be interrupted. -/
  interrupts : Nat
  /-- Where reading ends, if before the end of the data. -/
  readable : Option Nat
  /-- Reads at or past this offset fail. -/
  failReadAt : Option Nat
  /-- This seek, counted from zero, and all later ones fail. -/
  failSeekFrom : Option Nat
  /-- How many seeks were tried. -/
  seeks : Nat
  deriving DecidableEq

namespace MemoryStream

/-- A stream without faults, at its start. -/
def ofBytes (data : Bytes) : MemoryStream where
  data := data
  position := 0
  reportedEnd := none
  portion := none
  interrupts := 0
  readable := none
  failReadAt := none
  failSeekFrom := none
  seeks := 0

/-- The smaller of a bound and an optional one. -/
def capped (bound : Nat) (cap : Option Nat) : Nat := cap.elim bound (min bound)

def seekFailure : IoError := ⟨.other, "injected seek failure"⟩

def readFailure : IoError := ⟨.other, "injected read failure"⟩

/-- A seek that leads to `position`, unless it is one of those that fail. -/
def seekTo (s : MemoryStream) (position : Nat) : Except IoError Unit × MemoryStream :=
  let counted := { s with seeks := s.seeks + 1 }
  if s.failSeekFrom.any (· ≤ s.seeks) then (.error seekFailure, counted)
  else (.ok (), { counted with position })

/-- Where reading ends. -/
def readEnd (s : MemoryStream) : Nat := capped (capped s.data.length s.readable) s.failReadAt

def readUpTo (s : MemoryStream) (want : Nat) : ReadReply × MemoryStream :=
  if s.interrupts > 0 then (.interrupted, { s with interrupts := s.interrupts - 1 })
  else if s.failReadAt.any (· ≤ s.position) then (.failed readFailure, s)
  else
    let count := capped (min want (s.readEnd - s.position)) s.portion
    (.delivered ((s.data.drop s.position).take count),
      { s with position := s.position + count })

theorem capped_le (bound : Nat) (cap : Option Nat) : capped bound cap ≤ bound := by
  cases cap with
  | none => exact Nat.le_refl bound
  | some cap => exact Nat.min_le_left bound cap

instance : ByteStream MemoryStream where
  seek := seekTo
  seekEnd s :=
    let fileEnd := s.reportedEnd.getD s.data.length
    let (outcome, moved) := s.seekTo fileEnd
    (outcome.map fun _ => fileEnd, moved)
  read := readUpTo
  patience s := s.interrupts
  length_le {s s' want bytes} h := by
    unfold readUpTo at h
    split at h
    · cases h
    · split at h
      · cases h
      · cases h
        have := capped_le (min want (s.readEnd - s.position)) s.portion
        simp only [List.length_take]
        omega
  patience_lt {s s' want} h := by
    unfold readUpTo at h
    split at h
    · cases h; dsimp only; omega
    · split at h <;> cases h

end MemoryStream

end RawReel
