import Mathlib
import RawReel.FileTree

/-!
# What writing files does to a tree

* `fileTarget_join`: files that are made in a directory stand in one place, each
  under its name;
* `fileTarget_of_directories`: where a file is to be made depends on the
  directories only;
* `JustWritten`: some files were written into a directory, and nothing else;
* `makeDirectories_sameFiles`: making directories touches no file.
-/

namespace RawReel

namespace Path

/-- What stands in front of a name that is joined to a directory. -/
def front (directory : Path) : List Char :=
  if directory.chars = [] ∨ directory.chars.getLast? = some '/' then directory.chars
  else directory.chars ++ ['/']

theorem head?_ne_slash {name : List Char} (plain : '/' ∉ name) : name.head? ≠ some '/' := by
  intro first
  exact plain (List.mem_of_mem_head? first)

theorem chars_join (directory : Path) {name : List Char} (plain : '/' ∉ name) :
    (directory.join name).chars = directory.front ++ name := by
  rw [join, if_neg (head?_ne_slash plain), front]
  split
  · rfl
  · rw [List.append_assoc, List.singleton_append]

theorem front_eq (directory : Path) :
    directory.front = [] ∨ ∃ chars, directory.front = chars ++ ['/'] := by
  unfold front
  split
  · next blank =>
    obtain empty | slash := blank
    · exact .inl empty
    · exact .inr (List.getLast?_eq_some_iff.mp slash)
  · exact .inr ⟨_, rfl⟩

end Path

namespace FileTree

theorem components_name {name : List Char} (plain : '/' ∉ name) (named : name ≠ []) :
    components name = [name] := by
  have whole : name.splitOn '/' = [name] := by
    rw [List.splitOn_eq_splitOnP]
    apply List.splitOnP_eq_singleton
    intro c there
    exact beq_eq_false_iff_ne.mpr fun slash => plain (slash ▸ there)
  rw [components, whole]
  simp [named]

theorem components_append_slash (front back : List Char) :
    components (front ++ '/' :: back) = components front ++ components back := by
  simp only [components, List.splitOn_eq_splitOnP]
  rw [List.splitOnP_append_cons (p := (· == '/')) front back rfl, List.filter_append]

/-- A name behind a slash, or behind nothing, is the last component. -/
theorem components_concat {front name : List Char}
    (in_front : front = [] ∨ ∃ before, front = before ++ ['/']) (plain : '/' ∉ name)
    (named : name ≠ []) : components (front ++ name) = components front ++ [name] := by
  obtain rfl | ⟨before, rfl⟩ := in_front
  · rw [List.nil_append, components_name plain named]
    rfl
  · rw [List.append_assoc, List.singleton_append, components_append_slash,
      components_append_slash, components_name plain named]
    simp [components]

theorem components_join (directory : Path) {name : List Char} (plain : '/' ∉ name)
    (named : name ≠ []) :
    components (directory.front ++ name) = components directory.front ++ [name] :=
  components_concat directory.front_eq plain named

/-- Steps into one component after the other. -/
def descend (t : FileTree) (location : Location) (way : List (List Char)) :
    Except IoError Location :=
  way.foldlM t.enter location

theorem walk_concat (t : FileTree) (asDirectory : Bool) (location : Location)
    (way : List (List Char)) (name : List Char) :
    t.walk asDirectory location (way ++ [name]) =
      (t.descend location way).bind fun directory => t.walk asDirectory directory [name] := by
  induction way generalizing location with
  | nil => rfl
  | cons component way ih =>
    obtain ⟨next, rest, there⟩ : ∃ next rest, way ++ [name] = next :: rest := by
      cases way <;> exact ⟨_, _, rfl⟩
    rw [List.cons_append, there, walk, ← there, descend, List.foldlM_cons]
    · cases t.enter location component with
      | error e => rfl
      | ok inside => exact ih inside
    · exact nofun

/-- Where the walk along a path starts. -/
def start (t : FileTree) (chars : List Char) : Location :=
  if chars.head? = some '/' then [] else t.workingDirectory

theorem start_join (t : FileTree) (directory : Path) {name : List Char} (plain : '/' ∉ name) :
    t.start (directory.front ++ name) = t.start directory.front := by
  unfold start
  cases directory.front with
  | nil => rw [List.nil_append, if_neg (Path.head?_ne_slash plain), if_neg nofun]
  | cons c front => rfl

/-- Only the walk along a path looks at the tree. -/
theorem resolve_eq_ok_iff {t : FileTree} {p : Path} {target : Target} :
    t.resolve p = .ok target ↔
      (p.chars.contains '\x00' = false ∧ p.chars ≠ [] ∧ p.text.utf8ByteSize ≤ maxPath) ∧
      t.walk (p.chars.getLast? == some '/') (t.start p.chars) (components p.chars) =
        .ok target := by
  unfold resolve start
  split_ifs <;> simp_all

theorem fileTarget_ok {t : FileTree} {p : Path} {location : Location}
    (ok : t.fileTarget p = .ok location) :
    ∃ directory name, t.resolve p = .ok (.entry directory name false) ∧
      location = directory ++ [name] ∧ t.at? location ≠ some .directory := by
  unfold fileTarget at ok
  cases resolved : t.resolve p with
  | error e => rw [resolved] at ok; cases ok
  | ok target =>
    rw [resolved] at ok
    cases target with
    | directory => cases ok
    | entry directory name asDirectory =>
      change (if asDirectory = true ∨ t.isDirectoryAt (directory ++ [name]) = true
        then Except.error IoError.isADirectory else .ok (directory ++ [name])) = _ at ok
      split at ok
      · cases ok
      · next free =>
        cases ok
        simp only [isDirectoryAt, beq_iff_eq, not_or, Bool.not_eq_true] at free
        obtain ⟨rfl, free⟩ := free
        exact ⟨directory, name, rfl, rfl, free⟩

theorem walk_name_ok {t : FileTree} {asDirectory final : Bool} {location directory : Location}
    {name last : List Char}
    (ok : t.walk asDirectory location [name] = .ok (.entry directory last final)) :
    directory = location ∧ last = name := by
  unfold walk at ok
  split at ok
  · cases entered : t.enter location name <;> rw [entered] at ok <;> cases ok
  · split at ok
    · cases ok
    · cases ok
      exact ⟨rfl, rfl⟩

/-- **Files in a directory stand in one place.** A file that is made in a
directory is made where the way to the directory leads, under its name. -/
theorem fileTarget_join {t : FileTree} {output : Path} {name : List Char} {location : Location}
    (plain : '/' ∉ name) (named : name ≠ []) (ok : t.fileTarget (output.join name) = .ok location) :
    ∃ directory, t.descend (t.start output.front) (components output.front) = .ok directory ∧
      location = directory ++ [name] := by
  obtain ⟨directory, last, resolved, rfl, _⟩ := fileTarget_ok ok
  obtain ⟨_, walked⟩ := resolve_eq_ok_iff.mp resolved
  rw [Path.chars_join output plain, start_join t output plain, components_join output plain named,
    walk_concat] at walked
  cases descended : t.descend (t.start output.front) (components output.front) with
  | error e => rw [descended] at walked; cases walked
  | ok inside =>
    rw [descended] at walked
    obtain ⟨rfl, rfl⟩ := walk_name_ok walked
    exact ⟨directory, rfl, rfl⟩

/-- Files that can be made in a directory all stand in one place. -/
theorem exists_directory {t : FileTree} {output : Path} {names : List (List Char)}
    (plain : ∀ name ∈ names, '/' ∉ name ∧ name ≠ [])
    (targets : ∀ name ∈ names, ∃ location, t.fileTarget (output.join name) = .ok location) :
    ∃ directory, ∀ name ∈ names,
      t.fileTarget (output.join name) = .ok (directory ++ [name]) := by
  cases descended : t.descend (t.start output.front) (components output.front) with
  | error e =>
    refine ⟨[], fun name among => ?_⟩
    obtain ⟨location, target⟩ := targets name among
    obtain ⟨_, reached, _⟩ := fileTarget_join (plain name among).1 (plain name among).2 target
    cases descended.symm.trans reached
  | ok directory =>
    refine ⟨directory, fun name among => ?_⟩
    obtain ⟨location, target⟩ := targets name among
    obtain ⟨_, reached, rfl⟩ := fileTarget_join (plain name among).1 (plain name among).2 target
    cases descended.symm.trans reached
    exact target

theorem enter_of_directories {t later : FileTree} {location inside : Location}
    {component : List Char}
    (directories : ∀ l, t.at? l = some .directory → later.at? l = some .directory)
    (ok : t.enter location component = .ok inside) :
    later.enter location component = .ok inside := by
  unfold enter at ok ⊢
  split_ifs at ok ⊢ with here up long
  · exact ok
  · exact ok
  · cases there : t.at? (location ++ [component]) with
    | none => rw [there] at ok; cases ok
    | some node =>
      rw [there] at ok
      cases node with
      | file => cases ok
      | directory => rw [directories _ there]; exact ok

theorem walk_of_directories {t later : FileTree} {asDirectory : Bool} {location : Location}
    {way : List (List Char)} {target : Target}
    (directories : ∀ l, t.at? l = some .directory → later.at? l = some .directory)
    (ok : t.walk asDirectory location way = .ok target) :
    later.walk asDirectory location way = .ok target := by
  fun_induction walk t asDirectory location way with
  | case1 => exact ok
  | case2 location component dots =>
    rw [walk, if_pos dots]
    cases entered : t.enter location component with
    | error e => rw [entered] at ok; cases ok
    | ok inside => rw [enter_of_directories directories entered, ← entered]; exact ok
  | case3 => cases ok
  | case4 location component not_dots short => rw [walk, if_neg not_dots, if_neg short]; exact ok
  | case5 location component rest more ih =>
    rw [walk]
    · cases entered : t.enter location component with
      | error e => rw [entered] at ok; cases ok
      | ok inside =>
        rw [entered] at ok
        rw [enter_of_directories directories entered]
        exact ih inside ok
    · exact more

/-- **Where a file is to be made depends on the directories only**, as long as no
directory takes its place. -/
theorem fileTarget_of_directories {t later : FileTree} {p : Path} {location : Location}
    (same_start : later.workingDirectory = t.workingDirectory)
    (directories : ∀ l, t.at? l = some .directory → later.at? l = some .directory)
    (free : later.at? location ≠ some .directory) (ok : t.fileTarget p = .ok location) :
    later.fileTarget p = .ok location := by
  obtain ⟨directory, name, resolved, rfl, _⟩ := fileTarget_ok ok
  obtain ⟨sound, walked⟩ := resolve_eq_ok_iff.mp resolved
  have start_eq : later.start p.chars = t.start p.chars := by rw [start, same_start, start]
  have resolved_later : later.resolve p = .ok (.entry directory name false) :=
    resolve_eq_ok_iff.mpr ⟨sound, start_eq ▸ walk_of_directories directories walked⟩
  rw [fileTarget, resolved_later]
  change (if false = true ∨ later.isDirectoryAt (directory ++ [name]) = true then _ else _) = _
  rw [if_neg (by simpa [isDirectoryAt] using free)]
  rfl

/-- Files of these names and contents were written into the directory, and
nothing else is different. -/
structure JustWritten (before after : FileTree) (directory : Location)
    (files : List (List Char × Bytes)) : Prop where
  workingDirectory_eq : after.workingDirectory = before.workingDirectory
  there : ∀ name content, (name, content) ∈ files →
    after.at? (directory ++ [name]) = some (.file content)
  elsewhere : ∀ location,
    (∀ name content, (name, content) ∈ files → location ≠ directory ++ [name]) →
    after.at? location = before.at? location

theorem JustWritten.nothing (t : FileTree) (directory : Location) :
    t.JustWritten t directory [] :=
  ⟨rfl, fun _ _ written => absurd written List.not_mem_nil, fun _ _ => rfl⟩

theorem place_ne {directory : Location} {name other : List Char} (ne : name ≠ other) :
    directory ++ [name] ≠ directory ++ [other] := fun same =>
  ne (List.cons.inj (List.append_cancel_left same)).1

theorem JustWritten.write {before after : FileTree} {directory : Location}
    {files : List (List Char × Bytes)} (just : before.JustWritten after directory files)
    {name : List Char} (new : ∀ content, (name, content) ∉ files) (content : Bytes) :
    before.JustWritten (after.put (directory ++ [name]) (.file content)) directory
      (files ++ [(name, content)]) where
  workingDirectory_eq := just.workingDirectory_eq
  there := by
    intro other held written
    rw [List.mem_append, List.mem_singleton] at written
    obtain earlier | now := written
    · have ne : other ≠ name := by
        rintro rfl
        exact new held earlier
      rw [at?_put_of_ne _ _ (place_ne ne), just.there other held earlier]
    · cases now
      exact at?_put_self _ _ (by simp)
  elsewhere := by
    intro location apart
    rw [at?_put_of_ne _ _ (apart name content (by simp))]
    exact just.elsewhere location fun other held written =>
      apart other held (List.mem_append_left _ written)

/-- Files can be made where they could be made before. -/
theorem JustWritten.fileTarget {before after : FileTree} {directory : Location}
    {files : List (List Char × Bytes)} (just : before.JustWritten after directory files)
    (free : ∀ name content, (name, content) ∈ files →
      before.at? (directory ++ [name]) ≠ some .directory)
    {p : Path} {location : Location} (ok : before.fileTarget p = .ok location) :
    after.fileTarget p = .ok location := by
  obtain ⟨_, _, _, _, not_directory⟩ := fileTarget_ok ok
  refine fileTarget_of_directories just.workingDirectory_eq ?_ ?_ ok
  · intro other there
    rw [just.elsewhere other, there]
    rintro name content written rfl
    exact free name content written there
  · by_cases among : ∃ name content, (name, content) ∈ files ∧ location = directory ++ [name]
    · obtain ⟨name, content, written, rfl⟩ := among
      rw [just.there name content written]
      nofun
    · rw [just.elsewhere location fun name content written same =>
        among ⟨name, content, written, same⟩]
      exact not_directory

/-- Both trees hold the same files; they may differ in their directories. -/
def SameFiles (t later : FileTree) : Prop :=
  ∀ location content, later.at? location = some (.file content) ↔
    t.at? location = some (.file content)

theorem SameFiles.refl (t : FileTree) : t.SameFiles t := fun _ _ => .rfl

theorem SameFiles.trans {a b c : FileTree} (first : a.SameFiles b) (second : b.SameFiles c) :
    a.SameFiles c :=
  fun location content => (second location content).trans (first location content)

theorem makeDirectory_sameFiles {t made : FileTree} {p : Path}
    (ok : t.makeDirectory p = .ok made) : t.SameFiles made := by
  unfold makeDirectory at ok
  cases resolved : t.resolve p with
  | error e => rw [resolved] at ok; cases ok
  | ok target =>
    rw [resolved] at ok
    cases target with
    | directory => cases ok
    | entry directory name =>
      dsimp only [bind, Except.bind] at ok
      split at ok
      · cases ok
      · next free =>
        cases ok
        intro location content
        by_cases here : location = directory ++ [name]
        · subst here
          rw [at?_put_self _ _ (by simp), free]
          constructor <;> nofun
        · rw [at?_put_of_ne _ _ here]

/-- **Making directories touches no file.** -/
theorem makeDirectories_sameFiles (t : FileTree) (p : Path) :
    t.SameFiles (t.makeDirectories p).1 := by
  fun_induction makeDirectories t p with
  | case1 | case3 | case7 => exact .refl t
  | case2 p _ made made_eq => exact makeDirectory_sameFiles made_eq
  | case4 _ _ _ _ _ _ _ _ _ grown_eq ih | case6 _ _ _ _ _ _ _ _ _ grown_eq _ _ ih =>
    rwa [grown_eq] at ih
  | case5 p _ _ _ _ parent _ grown _ grown_eq made made_eq ih =>
    rw [grown_eq] at ih
    exact ih.trans (makeDirectory_sameFiles made_eq)

end FileTree

end RawReel
