import RawReel.Proofs.FileNames
import RawReel.Proofs.WrittenFiles

/-!
# Which paths name a file

* `Rooted`: every file and every directory stands in a directory;
* `Rooted.walk_directory`: a walk that takes no last step ends in a directory;
* `Rooted.ends_in_name`: the path of a file ends in a proper name;
* `Rooted.nothing_behind`: nothing stands behind that name.
-/

namespace RawReel

namespace FileTree

/-- Every file and every directory stands in a directory, and relative paths
start in one. -/
structure Rooted (t : FileTree) : Prop where
  start : t.at? t.workingDirectory = some .directory
  around : ∀ location, t.at? location ≠ none → t.at? location.dropLast = some .directory

theorem Rooted.of_nodes {t : FileTree} (start : t.at? t.workingDirectory = some .directory)
    (around : ∀ entry ∈ t.nodes, t.at? entry.1.dropLast = some .directory) : t.Rooted where
  start := start
  around := by
    intro location there
    by_cases root : location = []
    · rw [root]
      rfl
    · rw [at?, if_neg root] at there
      obtain ⟨node, found⟩ := Option.ne_none_iff_exists'.mp there
      obtain ⟨before, after, nodes_eq, _⟩ := List.lookup_eq_some_iff.mp found
      exact around (location, node) (by rw [nodes_eq]; simp)

section
variable {t : FileTree} (rooted : t.Rooted)
include rooted

/-- One component leads from a directory to a directory. -/
theorem Rooted.enter {location inside : Location} {component : List Char}
    (here : t.at? location = some .directory) (ok : t.enter location component = .ok inside) :
    t.at? inside = some .directory := by
  unfold FileTree.enter at ok
  split_ifs at ok
  · cases ok
    exact here
  · cases ok
    exact rooted.around location (by rw [here]; nofun)
  · cases there : t.at? (location ++ [component]) with
    | none => rw [there] at ok; cases ok
    | some node =>
      rw [there] at ok
      cases node with
      | file => cases ok
      | directory => cases ok; exact there

theorem Rooted.walk_directory {asDirectory : Bool} {location last : Location}
    {way : List (List Char)} (here : t.at? location = some .directory)
    (ok : t.walk asDirectory location way = .ok (.directory last)) :
    t.at? last = some .directory := by
  fun_induction walk t asDirectory location way with
  | case1 => cases ok; exact here
  | case2 location component dots =>
    cases entered : t.enter location component with
    | error e => rw [entered] at ok; cases ok
    | ok inside =>
      rw [entered] at ok
      cases ok
      exact rooted.enter here entered
  | case3 => cases ok
  | case4 => cases ok
  | case5 location component rest more ih =>
    cases entered : t.enter location component with
    | error e => rw [entered] at ok; cases ok
    | ok inside =>
      rw [entered] at ok
      exact ih inside (rooted.enter here entered) ok

end

/-- The last step is taken under the last component. -/
theorem walk_entry {t : FileTree} {asDirectory final : Bool} {location directory : Location}
    {way : List (List Char)} {name : List Char}
    (ok : t.walk asDirectory location way = .ok (.entry directory name final)) :
    final = asDirectory ∧ way.getLast? = some name ∧ name ≠ ['.'] ∧ name ≠ ['.', '.'] := by
  fun_induction walk t asDirectory location way with
  | case1 => cases ok
  | case2 location component dots =>
    cases entered : t.enter location component <;> rw [entered] at ok <;> cases ok
  | case3 => cases ok
  | case4 location component not_dots =>
    cases ok
    exact ⟨rfl, rfl, not_or.mp not_dots⟩
  | case5 location component rest more ih =>
    cases entered : t.enter location component with
    | error e => rw [entered] at ok; cases ok
    | ok inside =>
      rw [entered] at ok
      obtain ⟨final_eq, last, proper⟩ := ih inside ok
      refine ⟨final_eq, ?_, proper⟩
      rw [List.getLast?_cons, last, Option.getD_some]

theorem Rooted.at?_start {t : FileTree} (rooted : t.Rooted) (chars : List Char) :
    t.at? (t.start chars) = some .directory := by
  unfold FileTree.start
  split
  · rfl
  · exact rooted.start

/-- **The path of a file ends in a proper name.** -/
theorem Rooted.ends_in_name {t : FileTree} (rooted : t.Rooted) {p : Path}
    (is_file : t.isFile p = true) :
    p.chars.getLast? ≠ some '/' ∧
      ∃ name, (components p.chars).getLast? = some name ∧ name ≠ ['.'] ∧ name ≠ ['.', '.'] := by
  unfold isFile find at is_file
  cases resolved : t.resolve p with
  | error e => rw [resolved] at is_file; cases is_file
  | ok target =>
    obtain ⟨_, walked⟩ := resolve_eq_ok_iff.mp resolved
    rw [resolved] at is_file
    cases target with
    | directory location =>
      have there := rooted.walk_directory (rooted.at?_start p.chars) walked
      change t.isFileAt location = true at is_file
      rw [isFileAt, there] at is_file
      cases is_file
    | entry directory name asDirectory =>
      obtain ⟨rfl, last, proper⟩ := walk_entry walked
      refine ⟨?_, name, last, proper⟩
      intro slash
      dsimp only [bind, Except.bind] at is_file
      cases there : t.at? (directory ++ [name]) with
      | none => rw [there] at is_file; cases is_file
      | some node =>
        cases node with
        | file content =>
          rw [there, slash] at is_file
          cases is_file
        | directory =>
          rw [there] at is_file
          change t.isFileAt (directory ++ [name]) = true at is_file
          rw [isFileAt, there] at is_file
          cases is_file

/-- **Nothing stands behind the name of a file**, and two dots are no such name. -/
theorem Rooted.nothing_behind {t : FileTree} (rooted : t.Rooted) {p : Path}
    {front name blank : List Char} (spelled : p.Spelled front name blank)
    (is_file : t.isFile p = true) : blank = [] ∧ name ≠ ['.', '.'] := by
  obtain ⟨no_slash, last, last_eq, not_dot, not_up⟩ := rooted.ends_in_name is_file
  obtain rfl | ⟨rest, rfl⟩ | ⟨rest, rfl⟩ := spelled.blank.ends
  · refine ⟨rfl, ?_⟩
    rw [spelled.chars_eq, List.append_nil, components_concat spelled.in_front spelled.plain
      spelled.some_name, List.getLast?_concat] at last_eq
    cases last_eq
    exact not_up
  · refine absurd ?_ no_slash
    rw [spelled.chars_eq, ← List.append_assoc, List.getLast?_concat]
  · refine absurd ?_ not_dot
    rw [spelled.chars_eq, ← List.append_assoc, ← List.append_assoc,
      components_concat (.inr ⟨_, rfl⟩) (by decide) (by decide), List.getLast?_concat] at last_eq
    cases last_eq
    rfl

end FileTree

end RawReel
