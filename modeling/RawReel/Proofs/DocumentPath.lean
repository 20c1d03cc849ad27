import RawReel.Command.IndexDocument
import RawReel.Proofs.FileNames

/-!
# Where the index document is written

* `Path.Beside`: a path with the extension, in the directory of what was asked for
  and under its name;
* `Path.Trailing`: another extension, and something behind the name that counts
  for nothing;
* `Spelled.beside_added`: a name that the extension is added to stands beside;
* `Spelled.added_behind`: added to the text of a trailing path, the extension
  starts a name of its own, inside of what was asked for;
* `outputPath_beside_iff`: the document is written beside what was asked for, just
  if that does not trail.
-/

namespace RawReel.Path

/-- `p` has the extension, stands in the directory of `asked`, and is called like
it; the extension follows the name unless that ends in it already. -/
structure Beside (extension : List Char) (asked p : Path) : Prop where
  extension?_eq : p.extension? = some extension
  parent?_eq : p.parent? = asked.parent?
  fileName?_eq : p.fileName? =
    if asked.extension? = some extension then asked.fileName?
    else asked.fileName?.map (· ++ '.' :: extension)
  stable : p.ensureExtension extension = p

/-- A path with another extension does not end with its name. -/
structure Trailing (extension : List Char) (asked : Path) : Prop where
  extended : asked.extension? ≠ none
  other : asked.extension? ≠ some extension
  behind : asked.chars ≠ asked.beforeLast ++ asked.lastComponent

/-- What an extension becomes that is added behind a path that does not end with
its name: a name that starts with a dot, or with two. -/
def addedName (p : Path) (extension : List Char) : List Char :=
  if p.chars.getLast? = some '/' then '.' :: extension else '.' :: '.' :: extension

theorem ensureExtension_of_extension {p : Path} {extension : List Char}
    (same : p.extension? = some extension) : p.ensureExtension extension = p := by
  rw [ensureExtension, same]
  exact if_pos rfl

/-- A name without an extension is its own stem. -/
theorem splitExtension_fst {name : List Char} (none_there : (splitExtension name).2 = none) :
    (splitExtension name).1 = name := by
  unfold splitExtension at none_there ⊢
  dsimp only at none_there ⊢
  split
  · next split_at =>
    rw [split_at] at none_there
    cases none_there
  · rfl

namespace Spelled

variable {p : Path} {front name blank extension : List Char}

theorem extension?_eq (spelled : Spelled p front name blank) (not_up : name ≠ ['.', '.']) :
    p.extension? = (splitExtension name).2 := by
  rw [extension?, spelled.fileName?_eq, if_neg not_up, Option.bind_some]

/-- The directory of a path is told by what stands in front of its name. -/
theorem parent?_eq (spelled : Spelled p front name blank) :
    p.parent? =
      if (dropBlankComponents front.reverse).reverse = [] ∧ front.head? = some '/'
      then some ⟨['/']⟩ else some ⟨(dropBlankComponents front.reverse).reverse⟩ := by
  have same_start : front ≠ [] ∧ p.chars.head? = some '/' ↔ front.head? = some '/' := by
    rw [spelled.chars_eq]
    cases front <;> simp
  rw [parent?, spelled.lastComponent_eq, if_neg spelled.some_name]
  simp only [spelled.beforeLast_eq, same_start]

theorem withExtension_of_none (spelled : Spelled p front name blank)
    (not_up : name ≠ ['.', '.']) (none_there : p.extension? = none) :
    p.withExtension extension = ⟨front ++ name ++ '.' :: extension⟩ := by
  have stem : (splitExtension name).1 = name :=
    splitExtension_fst ((spelled.extension?_eq not_up).symm.trans none_there)
  have stem?_eq : p.stem? = some name := by
    rw [stem?, spelled.fileName?_eq, if_neg not_up, Option.map_some, stem]
  rw [withExtension, none_there]
  dsimp only
  rw [setExtension, stem?_eq, spelled.beforeLast_eq]

/-- **The name with the extension behind it stands beside** the name. -/
theorem beside_added (spelled : Spelled p front name blank) (not_up : name ≠ ['.', '.'])
    (other : p.extension? ≠ some extension) (plain : '/' ∉ extension) (no_dot : '.' ∉ extension)
    (some_extension : extension ≠ []) :
    Beside extension p ⟨front ++ name ++ '.' :: extension⟩ := by
  have added : Extended ⟨front ++ name ++ '.' :: extension⟩ front name extension [] :=
    .of_name spelled.in_front spelled.plain plain no_dot spelled.some_name some_extension
  refine ⟨added.extension?_eq, ?_, ?_, ensureExtension_of_extension added.extension?_eq⟩
  · rw [added.toSpelled.parent?_eq, spelled.parent?_eq]
  · rw [if_neg other, added.fileName?_eq, spelled.fileName?_eq, if_neg not_up, Option.map_some]

/-- **Added behind a path that does not end with its name**, an extension becomes
the name of a file inside of what was asked for. -/
theorem added_behind (spelled : Spelled p front name blank) (some_blank : blank ≠ [])
    (plain : '/' ∉ extension) (some_extension : extension ≠ []) :
    ∃ inner, Blank inner ∧
      Spelled (p.appendExtension extension) (front ++ name ++ inner)
        (p.addedName extension) [] := by
  obtain ⟨e, rest, rfl⟩ := List.exists_cons_of_ne_nil some_extension
  obtain ⟨inner, tail, rfl, ends⟩ :
      ∃ inner tail, blank = inner ++ ['/'] ++ tail ∧ (tail = [] ∨ tail = ['.']) := by
    obtain rfl | ⟨inner, rfl⟩ | ⟨inner, rfl⟩ := spelled.blank.ends
    · exact absurd rfl some_blank
    · exact ⟨inner, [], by simp, .inl rfl⟩
    · exact ⟨inner, ['.'], rfl, .inr rfl⟩
  have name_eq : p.addedName (e :: rest) = tail ++ '.' :: e :: rest := by
    rw [addedName, spelled.chars_eq]
    obtain rfl | rfl := ends <;> simp
  refine ⟨inner ++ ['/'], spelled.blank.of_prefix (List.prefix_append ..), ?_⟩
  rw [name_eq]
  refine ⟨?_, .inr ⟨front ++ name ++ inner, by simp⟩, ?_, by simp, ?_, .nil⟩
  · simp [appendExtension, spelled.chars_eq]
  · obtain rfl | rfl := ends <;> simpa using plain
  · obtain rfl | rfl := ends <;> simp

/-- What stands beside a name has not the name for its directory. -/
theorem parent?_ne (spelled : Spelled p front name blank) :
    p.parent? ≠ some ⟨front ++ name⟩ := by
  intro inside
  have bare : Spelled ⟨front ++ name⟩ front name [] :=
    ⟨(List.append_nil _).symm, spelled.in_front, spelled.plain, spelled.some_name,
      spelled.not_dot, .nil⟩
  have itself : parent? ⟨front ++ name⟩ = some ⟨front ++ name⟩ := by
    rw [bare.parent?_eq, ← spelled.parent?_eq, inside]
  exact Nat.lt_irrefl _ (parent?_shorter itself)

/-- Behind a name and what counts for nothing, the directory is the name. -/
theorem parent?_inner (spelled : Spelled p front name blank) {q : Path} {inner later : List Char}
    (is_blank : Blank inner) (within : Spelled q (front ++ name ++ inner) later []) :
    q.parent? = some ⟨front ++ name⟩ := by
  have shorter : (dropBlankComponents (front ++ name ++ inner).reverse).reverse =
      front ++ name := by
    rw [List.reverse_append, List.reverse_append, dropBlankComponents_append is_blank,
      dropBlankComponents_name spelled.plain spelled.some_name spelled.not_dot,
      List.reverse_append, List.reverse_reverse, List.reverse_reverse]
  rw [within.parent?_eq, shorter, if_neg]
  rintro ⟨nothing, _⟩
  exact spelled.some_name (List.append_eq_nil_iff.mp nothing).2

end Spelled

end RawReel.Path

namespace RawReel.IndexDocument

open RawReel.Path

variable {output : Path} {front name blank : List Char}

theorem plain_extension : '/' ∉ extension ∧ '.' ∉ extension ∧ extension ≠ [] := by decide

theorem outputPath_of_trailing (trailing : Trailing extension output) :
    outputPath output = output.appendExtension extension := by
  obtain ⟨old, there⟩ := Option.ne_none_iff_exists'.mp trailing.extended
  have other : old ≠ extension := fun same => trailing.other (there.trans (congrArg some same))
  rw [outputPath, ensureExtension, there]
  exact if_neg other

/-- Without anything behind the name, or without an extension, the document has
the name with the extension behind it. -/
theorem outputPath_added (spelled : Spelled output front name blank)
    (not_up : name ≠ ['.', '.']) (other : output.extension? ≠ some extension)
    (kept : ¬Trailing extension output) :
    outputPath output = ⟨front ++ name ++ '.' :: extension⟩ := by
  rw [outputPath, ensureExtension]
  cases there : output.extension? with
  | none => exact spelled.withExtension_of_none not_up there
  | some old =>
    have different : old ≠ extension := fun same => other (there.trans (congrArg some same))
    have ends : output.chars = output.beforeLast ++ output.lastComponent := by
      by_contra behind
      exact kept ⟨by simp [there], other, behind⟩
    rw [spelled.beforeLast_eq, spelled.lastComponent_eq] at ends
    dsimp only
    rw [if_neg different, appendExtension, ends]

/-- A name that an extension becomes has none itself, unless it starts with two
dots. -/
theorem splitExtension_addedName :
    (splitExtension (addedName output extension)).2 =
      if output.chars.getLast? = some '/' then none else some extension := by
  unfold addedName
  split <;> decide

/-- **The document is written beside what was asked for** just if that does not
trail; otherwise it is written inside, under a name that is nothing but dots and
the extension. -/
theorem outputPath_beside_iff (named : output.fileName? = some name) :
    (Beside extension output (outputPath output) ↔ ¬Trailing extension output) ∧
    (Trailing extension output →
      (outputPath output).parent? = some ⟨output.beforeLast ++ name⟩ ∧
      (outputPath output).fileName? = some (addedName output extension) ∧
      (outputPath output).extension? =
        (if output.chars.getLast? = some '/' then none else some extension) ∧
      (outputPath (outputPath output) = outputPath output ↔
        output.chars.getLast? ≠ some '/')) := by
  obtain ⟨not_up, blank, spelled⟩ := exists_spelled named
  obtain ⟨plain, no_dot, some_extension⟩ := plain_extension
  have inside (trailing : Trailing extension output) :
      ∃ inner, Blank inner ∧ Spelled (outputPath output) (output.beforeLast ++ name ++ inner)
        (addedName output extension) [] := by
    have some_blank : blank ≠ [] := by
      rintro rfl
      apply trailing.behind
      rw [spelled.lastComponent_eq, ← List.append_nil (output.beforeLast ++ name)]
      exact spelled.chars_eq
    rw [outputPath_of_trailing trailing]
    exact spelled.added_behind some_blank plain some_extension
  refine ⟨⟨fun beside trailing => ?_, fun kept => ?_⟩, fun trailing => ?_⟩
  · obtain ⟨inner, is_blank, within⟩ := inside trailing
    exact spelled.parent?_ne (beside.parent?_eq ▸ spelled.parent?_inner is_blank within)
  · by_cases same : output.extension? = some extension
    · have stays : outputPath output = output := ensureExtension_of_extension same
      rw [stays]
      exact ⟨same, rfl, by rw [if_pos same], stays⟩
    · rw [outputPath_added spelled not_up same kept]
      exact spelled.beside_added not_up same plain no_dot some_extension
  · obtain ⟨inner, is_blank, within⟩ := inside trailing
    have not_up' : addedName output extension ≠ ['.', '.'] := by
      unfold addedName
      split <;> decide
    have extension?_eq := (within.extension?_eq not_up').trans splitExtension_addedName
    refine ⟨spelled.parent?_inner is_blank within, ?_, extension?_eq, ?_⟩
    · rw [within.fileName?_eq, if_neg not_up']
    · split at extension?_eq
      · next slash =>
        refine ⟨fun stays => ?_, fun no_slash => absurd slash no_slash⟩
        have longer : outputPath (outputPath output) = ⟨_⟩ :=
          outputPath_added within not_up' (by rw [extension?_eq]; decide)
            fun trails => trails.extended extension?_eq
        have lengths := congrArg (fun p : Path => p.chars.length) (longer.symm.trans stays)
        simp [within.chars_eq] at lengths
      · next no_slash =>
        exact ⟨fun _ => no_slash, fun _ => ensureExtension_of_extension extension?_eq⟩

/-- A name that is all dot and no extension may have a slash behind it. Behind
another extension, a slash or a dot leads inside. -/
theorem outputPath_beside_iff_trailing :
    let hidden : Path := ⟨['d', '/', '.', 'y', 'a', 'm', 'l', '/']⟩
    let slash : Path := ⟨['c', '.', 'v', '1', '/']⟩
    let dot : Path := ⟨['c', '.', 'v', '1', '/', '.']⟩
    Beside extension hidden (outputPath hidden) ∧
      outputPath hidden =
        ⟨['d', '/', '.', 'y', 'a', 'm', 'l', '.', 'y', 'a', 'm', 'l']⟩ ∧
      outputPath (outputPath slash) ≠ outputPath slash ∧
      (outputPath dot).extension? = some extension ∧
      (outputPath dot).parent? = some ⟨['c', '.', 'v', '1']⟩ := by
  intro hidden slash dot
  have kept : ¬Trailing extension hidden := fun trailing => trailing.extended (by decide)
  have trailing : Trailing extension slash := ⟨by decide, by decide, by decide⟩
  have trailing' : Trailing extension dot := ⟨by decide, by decide, by decide⟩
  have beside := (@outputPath_beside_iff hidden ['.', 'y', 'a', 'm', 'l'] (by decide)).1.mpr kept
  obtain ⟨_, _, _, stable⟩ :=
    (@outputPath_beside_iff slash ['c', '.', 'v', '1'] (by decide)).2 trailing
  obtain ⟨within, _, extended, _⟩ :=
    (@outputPath_beside_iff dot ['c', '.', 'v', '1'] (by decide)).2 trailing'
  exact ⟨beside, by decide, fun stays => stable.mp stays (by decide), extended, within⟩

/-- Asked for as `c.v1/`, the document is written into `c.v1`, and has no
extension; the same path without its slash leads beside. -/
theorem document_inside_output :
    let output : Path := ⟨['c', '.', 'v', '1', '/']⟩
    let written : Path := ⟨['c', '.', 'v', '1', '/', '.', 'y', 'a', 'm', 'l']⟩
    output.fileName? = some ['c', '.', 'v', '1'] ∧ outputPath output = written ∧
      written.extension? = none ∧ written.parent? ≠ output.parent? ∧
      written.fileName? ≠ output.fileName?.map (· ++ '.' :: extension) ∧
      outputPath written ≠ written ∧
      outputPath ⟨['c', '.', 'v', '1']⟩ =
        ⟨['c', '.', 'v', '1', '.', 'y', 'a', 'm', 'l']⟩ := by
  decide

end RawReel.IndexDocument
