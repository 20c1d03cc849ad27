import RawReel.Bytes
import RawReel.IoError

/-!
Streams that can be read from any place. A stream may hand out fewer bytes than it is asked for, and
a read may be interrupted and is then tried again; a stream's patience bounds how often in a row.
-/

namespace RawReel

/-- What one read gives. No bytes at all means the end of the stream. -/
inductive ReadReply
  | delivered (bytes : Bytes)
  | interrupted
  | failed (cause : IoError)
  deriving DecidableEq

class ByteStream (σ : Type) where
  /-- Moves to an offset from the start, also one past the end. -/
  seek : σ → Nat → Except IoError Unit × σ
  /-- Moves to the end and tells its offset. -/
  seekEnd : σ → Except IoError Nat × σ
  /-- Reads up to a number of bytes. -/
  read : σ → Nat → ReadReply × σ
  patience : σ → Nat
  length_le : ∀ {s s' : σ} {want : Nat} {bytes : Bytes},
    read s want = (.delivered bytes, s') → bytes.length ≤ want
  patience_lt : ∀ {s s' : σ} {want : Nat},
    read s want = (.interrupted, s') → patience s' < patience s

namespace ByteStream

variable {σ : Type} [ByteStream σ]

/-- A stream after reading until enough was read, the stream ended or a read failed. -/
structure Filled (σ : Type) where
  stream : σ
  /-- What was read, in order, also if a later read failed. -/
  received : Bytes
  outcome : Except IoError Unit

/-- Reads `want` bytes from where the stream stands, or fewer if it ends before that. -/
def fill (s : σ) (want : Nat) : Filled σ :=
  if want = 0 then ⟨s, [], .ok ()⟩
  else
    match _h : read s want with
    | (.delivered [], s') => ⟨s', [], .ok ()⟩
    | (.delivered (b :: bytes), s') =>
      let rest := fill s' (want - (b :: bytes).length)
      { rest with received := (b :: bytes) ++ rest.received }
    | (.interrupted, s') => fill s' want
    | (.failed cause, s') => ⟨s', [], .error cause⟩
termination_by (want, patience s)
decreasing_by
  · apply Prod.Lex.left
    simp only [List.length_cons]
    omega
  · exact Prod.Lex.right _ (patience_lt _h)

end ByteStream

end RawReel
