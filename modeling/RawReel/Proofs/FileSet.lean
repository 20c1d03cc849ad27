import Mathlib.Data.List.Forall2
import RawReel.FileSet
import RawReel.Proofs.Stream

/-!
# What a set of files holds

* `Holds`: every stream of the set is faithful to its contents;
* `Holds.readAt`: a read gives the bytes of that file from the offset on, and
  the set holds what it held;
* `ofStreams_honest`: measuring honest streams gives their lengths;
* `Serves`: every stream of the set is that of its source;
* `Serves.readAt`: a read gives what the source of that file tells;
* `Accessed`: one set of files comes from another by reading and rewinding only,
  which neither changes the measured lengths nor what the files hold.
-/

namespace RawReel

theorem forall₂_modify {α β : Type} {R : α → β → Prop} {f : α → α} {l : List α} {m : List β}
    (h : List.Forall₂ R l m) {k : Nat} (change : ∀ a b, m[k]? = some b → R a b → R (f a) b) :
    List.Forall₂ R (l.modify k f) m := by
  induction h generalizing k with
  | nil => simp
  | cons hab _ ih =>
    cases k with
    | zero => exact .cons (change _ _ rfl hab) (by assumption)
    | succ k => exact .cons hab (ih fun a b there => change a b (by simpa using there))

theorem exists_of_forall₂ {α β : Type} {R : α → β → Prop} {l : List α} {m : List β}
    (h : List.Forall₂ R l m) {a : α} (among : a ∈ l) : ∃ b ∈ m, R a b := by
  induction h with
  | nil => cases among
  | @cons first b _ _ related _ ih =>
    obtain rfl | later := List.mem_cons.mp among
    · exact ⟨b, List.mem_cons_self, related⟩
    · obtain ⟨other, there, related⟩ := ih later
      exact ⟨other, List.mem_cons_of_mem _ there, related⟩

theorem forall₂_getElem? {α β : Type} {R : α → β → Prop} {l : List α} {m : List β}
    (h : List.Forall₂ R l m) {k : Nat} {b : β} (there : m[k]? = some b) :
    ∃ a, l[k]? = some a ∧ R a b := by
  induction h generalizing k with
  | nil => cases there
  | cons hab _ ih =>
    cases k with
    | zero => cases there; exact ⟨_, rfl, hab⟩
    | succ k => simpa using ih (by simpa using there)

namespace FileSet

section
variable {σ : Type}

theorem size_eq_of_lengths {files others : FileSet σ} (same : files.lengths = others.lengths) :
    files.size = others.size := by
  have count := congrArg List.length same
  rwa [lengths, lengths, List.length_map, List.length_map] at count

@[simp] theorem lengths_setStream (files : FileSet σ) (file : Nat) (stream : σ) :
    (files.setStream file stream).lengths = files.lengths := by
  apply List.ext_getElem?
  intro k
  simp only [lengths, setStream, List.getElem?_map, List.getElem?_modify]
  split <;> cases files.members[k]? <;> rfl

end

section
variable {σ : Type} [ByteStream σ]

@[simp] theorem lengths_readAt (files : FileSet σ) (file offset want : Nat) :
    (files.readAt file offset want).files.lengths = files.lengths := by
  unfold readAt
  split
  · rfl
  · split <;> simp only [lengths_setStream]

@[simp] theorem lengths_rewind (files : FileSet σ) (file : Nat) :
    (files.rewind file).1.lengths = files.lengths := by
  unfold rewind
  split
  · rfl
  · simp only [lengths_setStream]

/-- Every file holds its contents, wherever its stream stands. -/
def Holds (files : FileSet σ) (contents : List Bytes) : Prop :=
  List.Forall₂ (fun member data => ∃ p, ByteStream.StandsAt member.stream data p)
    files.members contents

theorem Holds.size_eq {files : FileSet σ} {contents : List Bytes} (h : files.Holds contents) :
    files.size = contents.length := h.length_eq

theorem Holds.outside {files : FileSet σ} {contents : List Bytes} (h : files.Holds contents)
    {file : Nat} (outside : contents[file]? = none) : files.members[file]? = none := by
  rw [List.getElem?_eq_none_iff] at outside ⊢
  exact h.length_eq ▸ outside

theorem Holds.setStream {files : FileSet σ} {contents : List Bytes} (h : files.Holds contents)
    {file p : Nat} {data : Bytes} (there : contents[file]? = some data) {stream : σ}
    (stands : ByteStream.StandsAt stream data p) :
    (files.setStream file stream).Holds contents := by
  apply forall₂_modify h
  intro member b at_file _
  rw [there, Option.some.injEq] at at_file
  exact at_file ▸ ⟨p, stands⟩

/-- A read gives the bytes that the file holds from the offset on. -/
theorem Holds.readAt {files : FileSet σ} {contents : List Bytes} (h : files.Holds contents)
    {file : Nat} {data : Bytes} (there : contents[file]? = some data) (offset want : Nat) :
    ∃ after : FileSet σ, after.Holds contents ∧ after.lengths = files.lengths ∧
      files.readAt file offset want =
        ⟨after, (data.drop offset).take want, .ok (),
          [.bytesRead (min want (data.length - offset)) file offset]⟩ := by
  obtain ⟨member, found, p, stands⟩ := forall₂_getElem? h there
  obtain ⟨moved, seek_eq, stands⟩ := stands.seek offset
  obtain ⟨received, outcome, stands⟩ := stands.fill want
  refine ⟨_, h.setStream there stands, lengths_setStream .., ?_⟩
  simp only [FileSet.readAt, found, seek_eq, received, outcome, List.length_take, List.length_drop]

theorem Holds.rewind {files : FileSet σ} {contents : List Bytes} (h : files.Holds contents)
    {file : Nat} {data : Bytes} (there : contents[file]? = some data) :
    ∃ after : FileSet σ, after.Holds contents ∧ after.lengths = files.lengths ∧
      files.rewind file = (after, .ok ()) := by
  obtain ⟨member, found, p, stands⟩ := forall₂_getElem? h there
  obtain ⟨moved, seek_eq, stands⟩ := stands.seek 0
  refine ⟨_, h.setStream there stands, lengths_setStream .., ?_⟩
  simp only [FileSet.rewind, found, seek_eq]

/-- **Honest streams are measured as they are.** -/
theorem ofStreams_honest {streams : List σ} {contents : List Bytes}
    (honest : List.Forall₂ ByteStream.Honest streams contents) :
    ∃ files : FileSet σ, ofStreams streams = .ok files ∧ files.Holds contents ∧
      files.lengths = contents.map List.length := by
  suffices measured : ∃ members : List (Member σ), streams.mapM measure = .ok members ∧
      List.Forall₂ (fun member data => ∃ p, ByteStream.StandsAt member.stream data p)
        members contents ∧ members.map (·.length) = contents.map List.length by
    obtain ⟨members, measured, holds, lengths⟩ := measured
    exact ⟨⟨members⟩, by simp only [ofStreams, measured]; rfl, holds, lengths⟩
  induction honest with
  | nil => exact ⟨[], rfl, .nil, rfl⟩
  | @cons stream data _ _ one _ ih =>
    obtain ⟨members, measured, holds, lengths⟩ := ih
    obtain ⟨atEnd, told, stands⟩ := one
    obtain ⟨atStart, moved, stands⟩ := stands.seek 0
    have first : measure stream = .ok ⟨atStart, data.length⟩ := by
      simp only [measure, told, moved]; rfl
    refine ⟨⟨atStart, data.length⟩ :: members, ?_, .cons ⟨0, stands⟩ holds, ?_⟩
    · simp only [List.mapM_cons, first, measured]; rfl
    · simp only [List.map_cons, lengths]

/-- Every file is a stream of its source, wherever it stands. -/
def Serves (files : FileSet σ) (sources : List (Source σ)) : Prop :=
  List.Forall₂ (fun member source => ∃ p, source.At member.stream p) files.members sources

theorem Serves.setStream {files : FileSet σ} {sources : List (Source σ)} (h : files.Serves sources)
    {file p : Nat} {source : Source σ} (there : sources[file]? = some source) {stream : σ}
    (stands : source.At stream p) : (files.setStream file stream).Serves sources := by
  apply forall₂_modify h
  intro member other at_file _
  rw [there, Option.some.injEq] at at_file
  exact at_file ▸ ⟨p, stands⟩

/-- What a read of a file gives, as its source tells. -/
def supplied (sources : List (Source σ)) (file offset want : Nat) : Bytes × Except IoError Unit :=
  match sources[file]? with
  | none => ([], .error (unknownFile file))
  | some source => source.supply offset want

/-- **A read gives what the source tells**, and every file stays a stream of its
source. -/
theorem Serves.readAt {files : FileSet σ} {sources : List (Source σ)} (h : files.Serves sources)
    (file offset want : Nat) :
    let access := files.readAt file offset want
    access.files.Serves sources ∧ access.received = (supplied sources file offset want).1 ∧
      access.outcome = (supplied sources file offset want).2 := by
  unfold supplied
  cases there : sources[file]? with
  | none =>
    have outside : files.members[file]? = none := by
      rw [List.getElem?_eq_none_iff] at there ⊢
      exact h.length_eq ▸ there
    simp only [FileSet.readAt, outside, and_self, and_true]
    exact h
  | some source =>
    obtain ⟨member, found, p, stands⟩ := forall₂_getElem? h there
    obtain ⟨moved, seek_eq, stands⟩ := source.seek offset stands
    obtain ⟨received, outcome, _, q, stands⟩ := source.fill stands want
    simp only [FileSet.readAt, found, seek_eq]
    exact ⟨h.setStream there stands, received, outcome⟩

theorem Serves.rewind {files : FileSet σ} {sources : List (Source σ)} (h : files.Serves sources)
    (file : Nat) : (files.rewind file).1.Serves sources := by
  cases found : files.members[file]? with
  | none => simpa only [FileSet.rewind, found] using h
  | some member =>
    have inside : file < sources.length := h.length_eq ▸ (List.getElem?_eq_some_iff.mp found).1
    have there : sources[file]? = some sources[file] := List.getElem?_eq_getElem inside
    obtain ⟨other, found', p, stands⟩ := forall₂_getElem? h there
    rw [found, Option.some.injEq] at found'
    subst found'
    obtain ⟨moved, seek_eq, stands⟩ := sources[file].seek 0 stands
    simp only [FileSet.rewind, found, seek_eq]
    exact h.setStream there stands

/-- The stream can be measured, and is a stream of the source. What length it
tells is left open. -/
def Steady (stream : σ) (source : Source σ) : Prop :=
  ∃ length s', ByteStream.seekEnd stream = (.ok length, s') ∧ ∃ p, source.At s' p

/-- Streams that were measured are the streams of their sources. -/
theorem ofStreams_serves {streams : List σ} {sources : List (Source σ)} {files : FileSet σ}
    (steady : List.Forall₂ Steady streams sources) (measured : ofStreams streams = .ok files) :
    files.Serves sources := by
  suffices serves : ∃ members : List (Member σ), streams.mapM measure = .ok members ∧
      List.Forall₂ (fun member source => ∃ p, source.At member.stream p) members sources by
    obtain ⟨members, members_eq, serves⟩ := serves
    simp only [ofStreams, members_eq] at measured
    cases measured
    exact serves
  clear measured
  induction steady with
  | nil => exact ⟨[], rfl, .nil⟩
  | @cons stream source _ _ one _ ih =>
    obtain ⟨members, members_eq, serves⟩ := ih
    obtain ⟨length, atEnd, told, p, stands⟩ := one
    obtain ⟨atStart, moved, stands⟩ := source.seek 0 stands
    have first : measure stream = .ok ⟨atStart, length⟩ := by
      simp only [measure, told, moved]
      rfl
    refine ⟨⟨atStart, length⟩ :: members, ?_, .cons ⟨0, stands⟩ serves⟩
    simp only [List.mapM_cons, first, members_eq]
    rfl

/-- What reading and rewinding can make of a set of files. -/
inductive Accessed (files : FileSet σ) : FileSet σ → Prop
  | refl : Accessed files files
  | read {mid : FileSet σ} (file offset want : Nat) (before : Accessed files mid) :
      Accessed files (mid.readAt file offset want).files
  | rewind {mid : FileSet σ} (file : Nat) (before : Accessed files mid) :
      Accessed files (mid.rewind file).1

theorem Accessed.trans {a b c : FileSet σ} (first : a.Accessed b) (second : b.Accessed c) :
    a.Accessed c := by
  induction second with
  | refl => exact first
  | read file offset want _ ih => exact .read file offset want ih
  | rewind file _ ih => exact .rewind file ih

theorem Accessed.lengths_eq {files after : FileSet σ} (h : files.Accessed after) :
    after.lengths = files.lengths := by
  induction h with
  | refl => rfl
  | read file offset want _ ih => rw [lengths_readAt, ih]
  | rewind file _ ih => rw [lengths_rewind, ih]

theorem Accessed.holds {files after : FileSet σ} (h : files.Accessed after)
    {contents : List Bytes} (held : files.Holds contents) : after.Holds contents := by
  induction h with
  | refl => exact held
  | @read mid file offset want _ ih =>
    cases there : contents[file]? with
    | none => simpa only [FileSet.readAt, ih.outside there] using ih
    | some data =>
      obtain ⟨after, holds, _, read_eq⟩ := ih.readAt there offset want
      rwa [read_eq]
  | @rewind mid file _ ih =>
    cases there : contents[file]? with
    | none => simpa only [FileSet.rewind, ih.outside there] using ih
    | some data =>
      obtain ⟨after, holds, _, rewind_eq⟩ := ih.rewind there
      rwa [rewind_eq]

theorem Accessed.serves {files after : FileSet σ} (h : files.Accessed after)
    {sources : List (Source σ)} (serves : files.Serves sources) : after.Serves sources := by
  induction h with
  | refl => exact serves
  | read file offset want _ ih => exact (ih.readAt file offset want).1
  | rewind file _ ih => exact ih.rewind file

end

end FileSet

theorem MemoryStream.steady (s : MemoryStream) (seeks : s.failSeekFrom = none)
    (moves : s.portion ≠ some 0) :
    FileSet.Steady s (source s.data s.readable s.failReadAt) := by
  let fileEnd := s.reportedEnd.getD s.data.length
  let atEnd : MemoryStream := { s with seeks := s.seeks + 1, position := fileEnd }
  have moved : s.seekTo fileEnd = (.ok (), atEnd) := by
    rw [seekTo, if_neg (by simp [seeks])]
  refine ⟨fileEnd, atEnd, ?_, fileEnd, rfl, rfl, rfl, rfl, seeks, moves⟩
  change ((s.seekTo fileEnd).1.map fun _ => fileEnd, (s.seekTo fileEnd).2) = _
  rw [moved]
  rfl

end RawReel
