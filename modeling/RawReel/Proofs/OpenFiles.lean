import Mathlib.Data.List.Forall2
import RawReel.Chunk
import RawReel.Proofs.FileSet

/-!
# Files that are open for reading

* `OpenFile.source`: an open file is the file at its location, as long as that
  is not written to;
* `openFile_ok`: what is opened is the file that a path leads to;
* `openRecording_holds`: the streams of a recording that was found are its chunks,
  and reading leaves them so.
-/

namespace RawReel

namespace OpenFile

/-- The file at a location, with the contents it had when it was looked at. -/
def source (location : Location) (content : Bytes) : Source OpenFile where
  data := content
  fault _ := none
  At file p := file.location = location ∧ file.content = content ∧ file.position = p
  seek := by
    rintro file p target ⟨rfl, rfl, rfl⟩
    exact ⟨{ file with position := target }, rfl, rfl, rfl, rfl⟩
  delivered := by
    rintro file p want bytes after ⟨rfl, rfl, rfl⟩ positive got
    cases got
    refine ⟨List.take_prefix .., ⟨rfl, rfl, rfl⟩, fun empty => ?_, rfl, fun _ _ => rfl⟩
    rw [List.take_eq_nil_iff, List.drop_eq_nil_iff] at empty
    exact empty.resolve_left (Nat.ne_of_gt positive)
  interrupted := by
    rintro file p want after _ _ got
    cases got
  failed := by
    rintro file p want cause after _ _ got
    cases got

/-- Looking at a file again that nothing was written to changes nothing. -/
theorem refresh_eq {tree : FileTree} {location : Location} {content : Bytes} {file : OpenFile}
    {p : Nat} (stands : (source location content).At file p)
    (same : tree.contentAt location = content) : file.refresh tree = file := by
  obtain ⟨rfl, rfl, rfl⟩ := stands
  rw [refresh, same]

theorem honest (file : OpenFile) : ByteStream.Honest file file.content :=
  ⟨{ file with position := file.content.length }, rfl, _,
    ByteStream.faithful_of_source (source file.location file.content) fun _ => rfl, rfl, rfl, rfl⟩

theorem steady (file : OpenFile) : FileSet.Steady file (source file.location file.content) :=
  ⟨_, { file with position := file.content.length }, rfl, file.content.length, rfl, rfl, rfl⟩

end OpenFile

namespace FileTree

/-- What is opened is the file that the path leads to. -/
theorem openFile_ok {t : FileTree} {p : Path} {file : OpenFile} (ok : t.openFile p = .ok file) :
    t.find p = .ok file.location ∧ t.at? file.location = some (.file file.content) ∧
      t.readFile p = .ok file.content := by
  unfold openFile at ok
  unfold readFile
  cases found : t.find p with
  | error e => rw [found] at ok; cases ok
  | ok location =>
    rw [found] at ok
    change (if t.isFileAt location = true then Except.ok _ else _) = _ at ok
    split at ok
    · next is_file =>
      cases ok
      refine ⟨rfl, ?_, if_pos is_file⟩
      unfold isFileAt at is_file
      split at is_file
      · next content there =>
        rw [there, contentAt]
        dsimp only
        rw [there]
      · cases is_file
    · cases ok

end FileTree

theorem forall₂_of_mapM {α β ε : Type} {f : α → Except ε β} {l : List α} {m : List β}
    (ok : l.mapM f = .ok m) : List.Forall₂ (fun a b => f a = .ok b) l m := by
  induction l generalizing m with
  | nil => cases ok; exact .nil
  | cons a l ih =>
    rw [List.mapM_cons] at ok
    cases first : f a with
    | error e => rw [first] at ok; cases ok
    | ok b =>
      cases rest : l.mapM f with
      | error e => rw [first, rest] at ok; cases ok
      | ok bs =>
        rw [first, rest] at ok
        cases ok
        exact .cons first (ih rest)

namespace Chunk

theorem openRecording_ok {tree : FileTree} {input : Path} {recording : Recording}
    (ok : (openRecording tree input).value = .ok recording) :
    ∃ opened, List.Forall₂ (fun path file => tree.openFile path = .ok file) recording.paths opened ∧
      FileSet.ofStreams opened = .ok recording.files := by
  unfold openRecording at ok
  cases found : paths tree input with
  | error e => rw [found] at ok; cases ok
  | ok found_paths =>
    rw [found] at ok
    dsimp only at ok
    split at ok
    · next files files_eq =>
      cases ok
      unfold openPaths at files_eq
      cases opened_eq : found_paths.mapM tree.openFile with
      | error e => rw [opened_eq] at files_eq; cases files_eq
      | ok opened =>
        rw [opened_eq] at files_eq
        exact ⟨opened, forall₂_of_mapM opened_eq, files_eq⟩
    · cases ok

/-- **An opened recording is its chunks**, as they stand in the tree, and reading
leaves each of its streams that of a chunk. -/
theorem openRecording_holds {tree : FileTree} {input : Path} {recording : Recording}
    (ok : (openRecording tree input).value = .ok recording) :
    ∃ opened, List.Forall₂ (fun path file => tree.openFile path = .ok file) recording.paths opened ∧
      recording.files.Holds (opened.map (·.content)) ∧
      recording.files.lengths = (opened.map (·.content)).map List.length ∧
      ∀ now, recording.files.Accessed now → ∀ member ∈ now.members,
        ∃ file ∈ opened, ∃ p, (OpenFile.source file.location file.content).At member.stream p := by
  obtain ⟨opened, chunks, measured⟩ := openRecording_ok ok
  have honest : List.Forall₂ ByteStream.Honest opened (opened.map (·.content)) :=
    List.forall₂_map_right_iff.mpr (List.forall₂_same.mpr fun file _ => file.honest)
  have steady : List.Forall₂ FileSet.Steady opened
      (opened.map fun file => OpenFile.source file.location file.content) :=
    List.forall₂_map_right_iff.mpr (List.forall₂_same.mpr fun file _ => file.steady)
  obtain ⟨files, measured', holds, lengths⟩ := FileSet.ofStreams_honest honest
  cases measured.symm.trans measured'
  refine ⟨opened, chunks, holds, lengths, fun now accessed member among => ?_⟩
  have serves := accessed.serves (FileSet.ofStreams_serves steady measured)
  obtain ⟨_, there, stands⟩ := exists_of_forall₂ serves among
  obtain ⟨file, opened_file, rfl⟩ := List.mem_map.mp there
  exact ⟨file, opened_file, stands⟩

end Chunk

end RawReel
