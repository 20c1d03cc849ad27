import RawReel.Proofs.Source

/-!
# Streams that read faithfully

What a stream owes its reader, said once for every stream:

* `Faithful`: seeking moves to the place asked for, and reading hands out the
  bytes from there on in portions of any size, interrupted any number of times;
* `StandsAt`: a stream that is faithful to some bytes, at an offset in them;
* `Faithful.fill`: reading until enough was read gives the bytes from that
  offset on, whatever the portions were;
* `Honest`: a stream that tells how many bytes it holds and is faithful to them;
* `MemoryStream.Sound.standsAt`: streams in memory without faults are faithful.
-/

namespace RawReel.ByteStream

section
variable {σ : Type} [ByteStream σ]

/-- Every state in `At`, with the offset it is at, reads `data` as it is. A
read that is not interrupted gives some of the bytes that come next, and no
bytes at all only from the end of the data on. -/
structure Faithful (data : Bytes) (At : σ → Nat → Prop) : Prop where
  seek : ∀ {s p} (target : Nat), At s p →
    ∃ s', ByteStream.seek s target = (.ok (), s') ∧ At s' target
  delivered : ∀ {s p want bytes s'}, At s p → 0 < want →
    ByteStream.read s want = (.delivered bytes, s') →
    bytes <+: data.drop p ∧ At s' (p + bytes.length) ∧ (bytes = [] → data.length ≤ p)
  interrupted : ∀ {s p want s'}, At s p → 0 < want →
    ByteStream.read s want = (.interrupted, s') → At s' p
  not_failed : ∀ {s p want cause s'}, At s p → 0 < want →
    ByteStream.read s want ≠ (.failed cause, s')

/-- The stream holds `data` and stands at offset `p`, also past the end. -/
def StandsAt (s : σ) (data : Bytes) (p : Nat) : Prop :=
  ∃ At : σ → Nat → Prop, Faithful data At ∧ At s p

theorem StandsAt.seek {s : σ} {data : Bytes} {p : Nat} (h : StandsAt s data p) (target : Nat) :
    ∃ s', ByteStream.seek s target = (.ok (), s') ∧ StandsAt s' data target := by
  obtain ⟨At, faithful, at_p⟩ := h
  obtain ⟨s', moved, at_target⟩ := faithful.seek target at_p
  exact ⟨s', moved, At, faithful, at_target⟩

/-- A faithful stream is a stream of a source without faults. -/
def Faithful.source {data : Bytes} {At : σ → Nat → Prop} (faithful : Faithful data At) :
    Source σ where
  data := data
  fault _ := none
  At := At
  seek := faithful.seek
  delivered at_p positive got := by
    obtain ⟨next, at_p', ended⟩ := faithful.delivered at_p positive got
    exact ⟨next, at_p', ended, rfl, fun _ _ => rfl⟩
  interrupted := faithful.interrupted
  failed at_p positive got := absurd got (faithful.not_failed at_p positive)

/-- The streams of a source without faults are faithful. -/
theorem faithful_of_source (source : Source σ) (sound : ∀ p, source.fault p = none) :
    Faithful source.data source.At where
  seek := source.seek
  delivered at_p positive got := by
    obtain ⟨next, at_p', ended, _⟩ := source.delivered at_p positive got
    exact ⟨next, at_p', ended⟩
  interrupted := source.interrupted
  not_failed := by
    intro s p want cause s' at_p positive got
    obtain ⟨fault, _⟩ := source.failed at_p positive got
    rw [sound] at fault
    cases fault

/-- **Portions do not matter.** Reading `want` bytes gives those that stand
from the offset on, or all that are left if they are fewer, and leaves the
stream behind them. -/
theorem Faithful.fill {data : Bytes} {At : σ → Nat → Prop} (faithful : Faithful data At) {s : σ}
    {p : Nat} (at_p : At s p) (want : Nat) :
    (fill s want).received = (data.drop p).take want ∧ (fill s want).outcome = .ok () ∧
      At (fill s want).stream (p + min want (data.length - p)) := by
  obtain ⟨received, outcome, behind, _⟩ := faithful.source.fill at_p want
  have supplied := faithful.source.supply_sound (fun _ => rfl) p want
  rw [supplied] at received outcome
  refine ⟨received, outcome, ?_⟩
  have at_end := behind outcome
  rwa [received, List.length_take, List.length_drop] at at_end

theorem StandsAt.fill {s : σ} {data : Bytes} {p : Nat} (h : StandsAt s data p) (want : Nat) :
    (fill s want).received = (data.drop p).take want ∧ (fill s want).outcome = .ok () ∧
      StandsAt (fill s want).stream data (p + min want (data.length - p)) := by
  obtain ⟨At, faithful, at_p⟩ := h
  obtain ⟨received, outcome, at_end⟩ := faithful.fill at_p want
  exact ⟨received, outcome, At, faithful, at_end⟩

/-- The stream tells how many bytes it holds, and is faithful to them. -/
def Honest (s : σ) (data : Bytes) : Prop :=
  ∃ s', ByteStream.seekEnd s = (.ok data.length, s') ∧ StandsAt s' data data.length

end

end RawReel.ByteStream

namespace RawReel.MemoryStream

/-- No access fails, and a read that is not interrupted moves on. -/
structure Sound (s : MemoryStream) : Prop where
  seeks : s.failSeekFrom = none
  reads : s.failReadAt = none
  moves : s.portion ≠ some 0

/-- The bytes that can be read. -/
def served (s : MemoryStream) : Bytes := s.data.take (capped s.data.length s.readable)

theorem served_eq {s : MemoryStream} (all : s.readable = none) : s.served = s.data := by
  rw [served, all]
  exact List.take_length

theorem Sound.standsAt {s : MemoryStream} (sound : s.Sound) :
    ByteStream.StandsAt s s.served s.position :=
  ⟨_, ByteStream.faithful_of_source (source s.data s.readable none) fun _ => rfl,
    rfl, rfl, sound.reads, rfl, sound.seeks, sound.moves⟩

theorem standsAt_ofBytes (data : Bytes) : ByteStream.StandsAt (ofBytes data) data 0 := by
  have sound : (ofBytes data).Sound := ⟨rfl, rfl, nofun⟩
  have stands := sound.standsAt
  rwa [served_eq rfl] at stands

/-- A sound stream that ends where its data ends is honest. -/
theorem Sound.honest {s : MemoryStream} (sound : s.Sound) (told : s.reportedEnd = none)
    (all : s.readable = none) : ByteStream.Honest s s.data := by
  let atEnd : MemoryStream := { s with seeks := s.seeks + 1, position := s.data.length }
  have still : atEnd.Sound := ⟨sound.seeks, sound.reads, sound.moves⟩
  have stands := still.standsAt
  have whole : atEnd.served = s.data := served_eq all
  rw [whole] at stands
  have moved : s.seekTo s.data.length = (.ok (), atEnd) := by
    rw [seekTo, if_neg (by simp [sound.seeks])]
  refine ⟨atEnd, ?_, stands⟩
  change ((s.seekTo (s.reportedEnd.getD s.data.length)).1.map fun _ =>
    s.reportedEnd.getD s.data.length, (s.seekTo (s.reportedEnd.getD s.data.length)).2) = _
  rw [told, Option.getD_none, moved]
  rfl

end RawReel.MemoryStream
