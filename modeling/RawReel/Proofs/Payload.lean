import Mathlib
import RawReel.Proofs.Gathering

/-!
# Frames are the payload

* `located_at_end`: the footer that is found is the end of all files joined;
* `Keeps.readFrame_payload`: a frame is its stretch of the joined files, whatever
  was done with the reader before;
* `frames_are_payload`: in whatever files a recording stands, and whatever was
  read before, frame `n` is the `n`-th stretch of frame size of all files
  joined, and the footer at their end belongs to no frame.
-/

namespace RawReel

/-- The end of all files joined is the end of the last one, if that is long enough. -/
theorem drop_flatten_last {contents : List Bytes} {last : Bytes}
    (last_eq : contents.getLast? = some last) {count : Nat} (fits : count ≤ last.length) :
    contents.flatten.drop (contents.flatten.length - count) = last.drop (last.length - count) := by
  obtain ⟨front, rfl⟩ := List.getLast?_eq_some_iff.mp last_eq
  have joined : (front ++ [last]).flatten = front.flatten ++ last := by simp
  rw [joined, List.length_append, Nat.add_sub_assoc fits, List.drop_length_add_append]

section
variable {σ : Type} [ByteStream σ]

/-- The footer of files that are as long as they were measured is their end. -/
theorem Footer.located_at_end {files : FileSet σ} {contents : List Bytes} {footer : Footer}
    (holds : files.Holds contents) (lengths : files.lengths = contents.map List.length)
    (found : (locate files).result = .ok footer) :
    ofBytes (contents.flatten.drop (contents.flatten.length - size)) = .ok footer ∧
      ∃ last, contents.getLast? = some last ∧ size ≤ last.length := by
  obtain ⟨length, last_length, fits, _, decoded, _⟩ := locate_ok found
  rw [lengths, List.getLast?_map, Option.map_eq_some_iff] at last_length
  obtain ⟨last, last_eq, rfl⟩ := last_length
  have there : contents[files.size - 1]? = some last := by
    rw [holds.size_eq, ← List.getLast?_eq_getElem?, last_eq]
  obtain ⟨_, _, _, read_eq⟩ := holds.readAt there (last.length - size) size
  have all : (last.drop (last.length - size)).take size = last.drop (last.length - size) :=
    List.take_of_length_le (by rw [List.length_drop]; omega)
  rw [read_eq] at decoded
  dsimp only at decoded
  rw [all] at decoded
  rw [drop_flatten_last last_eq fits]
  exact ⟨decoded, last, last_eq, fits⟩

end

namespace Reader

variable {σ η : Type} [ByteStream σ] [BlockHandler η]

/-- A frame of files that are as they were measured is its stretch of the joined
files, whatever was done with the reader before. -/
theorem Keeps.readFrame_payload {files : FileSet σ} {contents : List Bytes} {failLevel : Level}
    {handler : η} {opened r : Reader σ η} (keeps : opened.Keeps r) (holds : files.Holds contents)
    (lengths : files.lengths = contents.map List.length)
    (ok : (openWith failLevel files handler).result = .ok opened) (ready : r.isReady = true)
    {index : Nat} (indexed : index < r.blockCount) :
    (r.readFrame index).result =
        .ok ((contents.flatten.drop (index * r.frameSize)).take r.frameSize) ∧
      (index + 1) * r.frameSize + Footer.size ≤ contents.flatten.length := by
  have laid := (openWith_laid ok).1.keeps keeps
  obtain ⟨now, there, accessed⟩ := keeps.files_accessed ok ready
  obtain ⟨file, inner, placed, read, _⟩ :=
    readFrame_covered laid there accessed.lengths_eq (accessed.holds holds)
      (lengths ▸ covers_self contents) indexed
  rw [lengths] at placed
  refine ⟨by rw [read, placed.drop_flatten], ?_⟩
  rw [List.length_flatten, ← lengths]
  exact laid.frame_before_footer indexed

/-- **Frames are exactly the payload.** On honest streams, every frame of every
reader that was opened and is still open is read, and is the stretch of the
joined files that its number says; it ends in front of the footer, which is the
end of the last file. -/
theorem frames_are_payload {streams : List σ} {contents : List Bytes} {files : FileSet σ}
    {failLevel : Level} {handler : η} {opened : Reader σ η} {operations : List (Operation η)}
    (honest : List.Forall₂ ByteStream.Honest streams contents)
    (measured : FileSet.ofStreams streams = .ok files)
    (ok : (openWith failLevel files handler).result = .ok opened)
    (ready : (opened.run operations).isReady = true) :
    let r := opened.run operations
    let recording := contents.flatten
    r.footer = opened.footer ∧ (r.frameSize : Int) = opened.footer.frameSize.toInt ∧
    Footer.ofBytes (recording.drop (recording.length - Footer.size)) = .ok r.footer ∧
    (∃ last, contents.getLast? = some last ∧ Footer.size ≤ last.length) ∧
    r.blockCount = (recording.length - Footer.size) / r.frameSize ∧
    ∀ index < r.blockCount,
      (r.readFrame index).result =
        .ok ((recording.drop (index * r.frameSize)).take r.frameSize) ∧
      (index + 1) * r.frameSize + Footer.size ≤ recording.length := by
  obtain ⟨measuredFiles, measured_eq, holds, lengths⟩ := FileSet.ofStreams_honest honest
  rw [measured, Except.ok.injEq] at measured_eq
  subst measured_eq
  have keeps := run_keeps opened operations
  have laid := (openWith_laid ok).1.keeps keeps
  obtain ⟨footer, warning, found, _, introduced⟩ := openWith_eq_ok_iff.mp ok
  obtain ⟨after, opened_eq⟩ := introduce_ok introduced
  have footer_eq : opened.footer = footer := by rw [opened_eq]; rfl
  have total : files.lengths.sum = contents.flatten.length := by
    rw [lengths, List.length_flatten]
  obtain ⟨decoded, last⟩ := Footer.located_at_end holds lengths found
  intro r recording
  refine ⟨keeps.footer_eq, ?_, ?_, last, ?_, ?_⟩
  · have positive : 0 < r.frameSize := laid.frameSize_pos
    have frameSize_eq : r.frameSize = r.footer.frameSize.toInt.toNat := laid.frameSize_eq
    rw [keeps.footer_eq] at frameSize_eq
    omega
  · rw [decoded, ← footer_eq, ← keeps.footer_eq]
  · rw [blockCount, laid.index_eq, BlockIndex.size_build, BlockIndex.payload_eq, total]
  · exact fun index indexed => keeps.readFrame_payload holds lengths ok ready indexed

/-- Two frames of three bytes. The first one starts in a slow stream, skips an
empty one and ends in the one with the footer. -/
def scattered : List MemoryStream :=
  [{ MemoryStream.ofBytes [1, 2] with portion := some 1, interrupts := 2 },
    .ofBytes [], .ofBytes ([3, 4, 5, 6] ++ Footer.plain 3 2)]

theorem scattered_honest :
    List.Forall₂ ByteStream.Honest scattered [[1, 2], [], [3, 4, 5, 6] ++ Footer.plain 3 2] := by
  refine .cons ?_ (.cons ?_ (.cons ?_ .nil)) <;>
    exact MemoryStream.Sound.honest ⟨rfl, rfl, by decide⟩ rfl rfl

/-- Some calls, one of them for a frame that there is not. -/
def someCalls : List (Operation NullHandler) :=
  [.readNext, .readFrame 7, .readBlock 1, .setCursor 0]

set_option maxRecDepth 20000 in
theorem scattered_opens :
    ∃ files opened, FileSet.ofStreams scattered = .ok files ∧
      (openWith .error files NullHandler.mk).result = .ok opened ∧
      (opened.run someCalls).isReady = true ∧ (opened.run someCalls).frameSize = 3 := by
  have evaluated : (FileSet.ofStreams scattered).toOption.map (fun files =>
      (openWith .error files NullHandler.mk).result.toOption.map fun opened =>
        ((opened.run someCalls).isReady, (opened.run someCalls).frameSize)) =
      some (some (true, 3)) := by cbv
  obtain ⟨files, measured, evaluated⟩ := exists_ok_of_map evaluated
  obtain ⟨opened, ok, evaluated⟩ := exists_ok_of_map evaluated
  obtain ⟨ready, frameSize⟩ := Prod.mk.inj evaluated
  exact ⟨files, opened, measured, ok, ready, frameSize⟩

theorem frames_are_payload_scattered :
    ∃ files opened, FileSet.ofStreams scattered = .ok files ∧
      (openWith .error files NullHandler.mk).result = .ok opened ∧
      (opened.run someCalls).blockCount = 2 ∧
      ((opened.run someCalls).readFrame 0).result = .ok [1, 2, 3] ∧
      ((opened.run someCalls).readFrame 1).result = .ok [4, 5, 6] := by
  obtain ⟨files, opened, measured, ok, ready, frameSize⟩ := scattered_opens
  obtain ⟨_, _, _, _, count, frames⟩ := frames_are_payload scattered_honest measured ok ready
  rw [frameSize] at count frames
  have two : (opened.run someCalls).blockCount = 2 := by
    rw [count]
    simp only [List.flatten_cons, List.flatten_nil, List.length_append, List.length_cons,
      List.length_nil, Footer.length_plain]
    omega
  rw [two] at frames
  exact ⟨files, opened, measured, ok, two, (frames 0 (by decide)).1, (frames 1 (by decide)).1⟩

end Reader

end RawReel
