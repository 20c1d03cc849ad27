/-!
Paths as the text that a user writes, and what their last component says. Slashes separate
components; empty components and `.` count for nothing, except a `.` at the very start. The
extension of a file name is what follows its last dot, unless that dot is its first character.
-/

namespace RawReel

/-- A path as text. Paths are taken to be valid Unicode: a name of other bytes, which some file
systems allow, is none of these. -/
structure Path where
  chars : List Char
  deriving DecidableEq

namespace Path

def ofString (s : String) : Path := ⟨s.toList⟩

def text (p : Path) : String := String.ofList p.chars

/-- Drops, from the end backwards, the slashes and the `.` components that count for nothing. -/
def dropBlankComponents : List Char → List Char
  | '/' :: back => dropBlankComponents back
  | '.' :: '/' :: back => dropBlankComponents back
  | back => back

theorem dropBlankComponents_suffix (back : List Char) : dropBlankComponents back <:+ back := by
  fun_induction dropBlankComponents back with
  | case1 back ih => exact ih.trans (List.suffix_cons ..)
  | case2 back ih => exact ih.trans ((List.suffix_cons ..).trans (List.suffix_cons ..))
  | case3 => exact List.suffix_rfl

/-- The text from its end backwards, starting with the last component that counts. -/
def backwards (p : Path) : List Char := dropBlankComponents p.chars.reverse

/-- The last component that counts; empty for the root and for a path without components. -/
def lastComponent (p : Path) : List Char := (p.backwards.takeWhile (· != '/')).reverse

/-- What stands before the last component, up to and including the slash. -/
def beforeLast (p : Path) : List Char := (p.backwards.dropWhile (· != '/')).reverse

/-- The last component, if it names a file: neither `.` nor `..` does. -/
def fileName? (p : Path) : Option (List Char) :=
  let name := p.lastComponent
  if name = [] ∨ name = ['.'] ∨ name = ['.', '.'] then none else some name

/-- A file name without its extension, and the extension. -/
def splitExtension (name : List Char) : List Char × Option (List Char) :=
  let back := name.reverse
  match back.dropWhile (· != '.') with
  | _ :: c :: rest => ((c :: rest).reverse, some (back.takeWhile (· != '.')).reverse)
  | _ => (name, none)

def stem? (p : Path) : Option (List Char) := p.fileName?.map fun name => (splitExtension name).1

def extension? (p : Path) : Option (List Char) :=
  p.fileName?.bind fun name => (splitExtension name).2

/-- Ends the path after the stem of its file name and adds an extension. A path without a file name
stays as it is. -/
def setExtension (p : Path) (extension : List Char) : Path :=
  match p.stem? with
  | none => p
  | some stem => ⟨p.beforeLast ++ stem ++ '.' :: extension⟩

/-- The path with another extension: as many characters as the old extension has are cut off the
end of the text before the new one is set, also where slashes follow the file name. -/
def withExtension (p : Path) (extension : List Char) : Path :=
  match p.extension? with
  | none => p.setExtension extension
  | some old => setExtension ⟨p.chars.take (p.chars.length - old.length)⟩ extension

/-- The path with an extension added to its text, whatever it ends in. -/
def appendExtension (p : Path) (extension : List Char) : Path :=
  ⟨p.chars ++ '.' :: extension⟩

/-- The path that ends in the extension: a path that has it stays as it is, another extension is
kept before it. -/
def ensureExtension (p : Path) (extension : List Char) : Path :=
  match p.extension? with
  | some found => if found = extension then p else p.appendExtension extension
  | none => p.withExtension extension

/-- A path taken relative to a directory; an absolute one stays as it is. -/
def join (dir : Path) (name : List Char) : Path :=
  if name.head? = some '/' then ⟨name⟩
  else if dir.chars = [] ∨ dir.chars.getLast? = some '/' then ⟨dir.chars ++ name⟩
  else ⟨dir.chars ++ '/' :: name⟩

/-- The path without its last component; none if it has no component left. -/
def parent? (p : Path) : Option Path :=
  if p.lastComponent = [] then none
  else
    let shorter := (dropBlankComponents p.beforeLast.reverse).reverse
    if shorter = [] ∧ p.beforeLast ≠ [] ∧ p.chars.head? = some '/' then some ⟨['/']⟩
    else some ⟨shorter⟩

theorem parent?_shorter {p q : Path} (h : p.parent? = some q) :
    q.chars.length < p.chars.length := by
  unfold parent? at h
  split at h
  · simp at h
  next hname =>
    have hback := (dropBlankComponents_suffix p.chars.reverse).length_le
    have hsplit : (p.backwards.takeWhile (· != '/')).length
        + (p.backwards.dropWhile (· != '/')).length = p.backwards.length := by
      rw [← List.length_append, List.takeWhile_append_dropWhile]
    have hpos : 0 < (p.backwards.takeWhile (· != '/')).length := by
      rcases hw : p.backwards.takeWhile (· != '/') with _ | ⟨c, cs⟩
      · exact absurd (by simp [lastComponent, hw]) hname
      · simp
    have hdrop := (dropBlankComponents_suffix p.beforeLast.reverse).length_le
    simp only [backwards, List.length_reverse] at hback hsplit
    simp only [beforeLast, backwards, List.reverse_reverse] at hdrop
    dsimp only at h
    split at h
    next hroot =>
      obtain ⟨_, hne, _⟩ := hroot
      cases h
      have : 0 < p.beforeLast.length := List.length_pos_iff.2 hne
      simp only [beforeLast, backwards, List.length_reverse] at this
      simp only [backwards] at hpos
      simp only [List.length_cons, List.length_nil]
      omega
    · cases h
      simp only [backwards] at hpos
      simp only [beforeLast, backwards, List.reverse_reverse, List.length_reverse]
      omega

end Path

end RawReel
