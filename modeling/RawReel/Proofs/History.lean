import Mathlib
import RawReel.Handler.Recorder
import RawReel.Proofs.Run

/-!
# Reads do not depend on history

What a read leaves behind is where the streams stand, what is in the buffer, and
the cursor. Main statements:

* `gather_same`: a frame is gathered alike from files of the same sources,
  wherever they stand;
* `readFrame_same`: so it is read alike, whatever was in the buffer;
* `reads_without_history`: no run of calls changes what a read gives.
-/

namespace RawReel

namespace Reader

section
variable {σ : Type} [ByteStream σ]

/-- A frame that was gathered is whole. -/
theorem gather_ok_length {index frameSize left file offset : Nat} {files : FileSet σ}
    {received : Bytes}
    (ok : (gather index frameSize left files file offset received).result = .ok ()) :
    frameSize ≤ (gather index frameSize left files file offset received).received.length := by
  fun_induction gather index frameSize left files file offset received with
  | case1 | case2 | case4 => cases ok
  | case3 => assumption
  | case5 => rename_i ih; exact ih ok

/-- **A frame is gathered alike** from files of the same sources and lengths. -/
theorem gather_same {files others : FileSet σ} {sources : List (Source σ)}
    (serves : files.Serves sources) (serves' : others.Serves sources)
    (lengths_eq : files.lengths = others.lengths) (index frameSize left file offset : Nat)
    (received : Bytes) :
    let gathered := gather index frameSize left files file offset received
    let again := gather index frameSize left others file offset received
    gathered.received = again.received ∧ gathered.result = again.result := by
  have length?_eq : files.length? file = others.length? file := by
    rw [FileSet.length?, FileSet.length?, lengths_eq]
  obtain ⟨still, received_eq, outcome_eq⟩ :=
    serves.readAt file offset (frameSize - received.length)
  obtain ⟨still', received_eq', outcome_eq'⟩ :=
    serves'.readAt file offset (frameSize - received.length)
  have lengths_after :
      (files.readAt file offset (frameSize - received.length)).files.lengths =
        (others.readAt file offset (frameSize - received.length)).files.lengths := by
    rw [FileSet.lengths_readAt, FileSet.lengths_readAt, lengths_eq]
  unfold gather
  simp only [received_eq, received_eq', outcome_eq, outcome_eq', length?_eq]
  split
  · exact ⟨rfl, rfl⟩
  · split
    · exact ⟨rfl, rfl⟩
    · split
      · exact ⟨rfl, rfl⟩
      · cases left with
        | zero =>
          dsimp only
          rw [FileSet.size_eq_of_lengths lengths_eq]
          exact ⟨rfl, rfl⟩
        | succ left =>
          exact gather_same still still' lengths_after index frameSize left (file + 1) 0 _
termination_by left

end

section
variable {σ η θ : Type} [ByteStream σ]

/-- **A frame is read alike** by readers of one index, over files of the same
sources and lengths. -/
theorem readFrame_same {r : Reader σ η} {s : Reader σ θ} {files others : FileSet σ}
    {sources : List (Source σ)} (index_eq : r.index = s.index)
    (frameSize_eq : r.frameSize = s.frameSize) (there : r.files = some files)
    (there' : s.files = some others) (serves : files.Serves sources)
    (serves' : others.Serves sources) (lengths_eq : files.lengths = others.lengths) (index : Nat) :
    (r.readFrame index).result = (s.readFrame index).result := by
  simp only [readFrame, there, there', index_eq, blockCount]
  cases s.index.get? index with
  | none => rfl
  | some start =>
    dsimp only
    rw [← frameSize_eq, ← FileSet.size_eq_of_lengths lengths_eq]
    obtain ⟨received_eq, result_eq⟩ := gather_same serves serves' lengths_eq index r.frameSize
      (files.size - 1 - start.file) start.file start.offset []
    rw [← received_eq, ← result_eq]
    cases result : (gather index r.frameSize (files.size - 1 - start.file) files start.file
      start.offset []).result with
    | error e => rfl
    | ok _ =>
      have whole := gather_ok_length result
      have size_eq : s.buffer.size = r.buffer.size := frameSize_eq.symm
      have first := r.buffer.contents_overwrite_of_le whole
      have second := s.buffer.contents_overwrite_of_le (Nat.le_trans (Nat.le_of_eq size_eq) whole)
      simp only [Except.map]
      rw [first, second, size_eq]

variable [BlockHandler η]

/-- **Reads do not depend on history.** If what streams give depends only on where
they stand, then no run of calls that leaves the reader open, be they successful
or not, changes what a read of any frame gives. -/
theorem reads_without_history {streams : List σ} {sources : List (Source σ)} {files : FileSet σ}
    {failLevel : Level} {handler : η} {opened : Reader σ η} {operations : List (Operation η)}
    (steady : List.Forall₂ FileSet.Steady streams sources)
    (measured : FileSet.ofStreams streams = .ok files)
    (ok : (openWith failLevel files handler).result = .ok opened)
    (unclosed : .close ∉ operations) (index : Nat) :
    ((opened.run operations).readFrame index).result = (opened.readFrame index).result := by
  have serves := FileSet.ofStreams_serves steady measured
  obtain ⟨_, start, start_eq, first⟩ := openWith_laid ok
  have ready := (isReady_run opened unclosed).trans (openWith_isReady ok)
  obtain ⟨now, there, later⟩ := run_files ok operations ready
  have lengths_eq : now.lengths = start.lengths := later.lengths_eq.trans first.lengths_eq.symm
  have keeps := run_keeps opened operations
  exact readFrame_same keeps.index_eq keeps.frameSize_eq there start_eq
    (later.serves serves) (first.serves serves) lengths_eq index

end

/-- A handler that rejects the first frame that it is given. -/
def rejectsFirst : Recorder := ⟨#[], [⟨.position 2, ⟨"not now", []⟩⟩]⟩

/-- Four frames of three bytes in three streams. The first stream cannot be read
from its fifth byte on, and the second one holds less than it tells. -/
def worn : List MemoryStream :=
  [{ MemoryStream.ofBytes [0, 1, 2, 3, 4] with
      portion := some 2, interrupts := 3, failReadAt := some 4 },
    { MemoryStream.ofBytes [5, 6, 7, 8] with readable := some 2 },
    .ofBytes ([9, 10, 11] ++ Footer.plain 3 4)]

theorem worn_steady : List.Forall₂ FileSet.Steady worn
    [MemoryStream.source [0, 1, 2, 3, 4] none (some 4),
      MemoryStream.source [5, 6, 7, 8] (some 2) none,
      MemoryStream.source ([9, 10, 11] ++ Footer.plain 3 4) none none] := by
  refine .cons ?_ (.cons ?_ (.cons ?_ .nil)) <;> exact MemoryStream.steady _ rfl (by decide)

/-- Calls of all kinds; some of the reads fail, and a block is rejected. -/
def manyCalls : List (Operation Recorder) :=
  [.readFrame 1, .readNext, .frames 2, .readBlock 2, .readFrame 7, .setCursor 9, .readNext,
    .setHandler fun _ => .empty, .readFrame 0]

set_option maxRecDepth 20000 in
theorem worn_opens :
    ∃ files opened, FileSet.ofStreams worn = .ok files ∧
      (openWith .error files rejectsFirst).result = .ok opened ∧
      (opened.readFrame 1).result = .error (.io MemoryStream.readFailure) ∧
      (opened.readFrame 2).result = .error (.size (.shortRead 2 1 1 3)) ∧
      (opened.readFrame 3).result = .ok [9, 10, 11] := by
  have evaluated : (FileSet.ofStreams worn).toOption.map (fun files =>
      (openWith .error files rejectsFirst).result.toOption.map fun opened =>
        ((opened.readFrame 1).result, (opened.readFrame 2).result, (opened.readFrame 3).result)) =
      some (some (.error (.io MemoryStream.readFailure), .error (.size (.shortRead 2 1 1 3)),
        .ok [9, 10, 11])) := by cbv
  obtain ⟨files, measured, evaluated⟩ := exists_ok_of_map evaluated
  obtain ⟨opened, ok, evaluated⟩ := exists_ok_of_map evaluated
  obtain ⟨first, evaluated⟩ := Prod.mk.inj evaluated
  obtain ⟨second, third⟩ := Prod.mk.inj evaluated
  exact ⟨files, opened, measured, ok, first, second, third⟩

theorem reads_without_history_worn :
    ∃ files opened, FileSet.ofStreams worn = .ok files ∧
      (openWith .error files rejectsFirst).result = .ok opened ∧
      ((opened.run manyCalls).readFrame 1).result = .error (.io MemoryStream.readFailure) ∧
      ((opened.run manyCalls).readFrame 2).result = .error (.size (.shortRead 2 1 1 3)) ∧
      ((opened.run manyCalls).readFrame 3).result = .ok [9, 10, 11] := by
  obtain ⟨files, opened, measured, ok, first, second, third⟩ := worn_opens
  have unclosed : .close ∉ manyCalls := by simp [manyCalls]
  have same := reads_without_history worn_steady measured ok unclosed
  exact ⟨files, opened, measured, ok, (same 1).trans first, (same 2).trans second,
    (same 3).trans third⟩

end Reader

end RawReel
