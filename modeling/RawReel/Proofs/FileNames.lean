import Mathlib
import RawReel.Path

/-!
# How a path spells the file it names

* `Blank`: what may stand behind a file name and counts for nothing;
* `Spelled`: a path as what stands in front of its last component, that
  component, and what counts for nothing behind it;
* `Extended`: the same with the last component split at its last dot;
* `withExtension_eq`: another extension takes the place of the old one, unless
  nothing but two dots is left when the old one is cut off (`Collapses`).
-/

namespace RawReel.Path

/-- What counts for nothing behind a name: slashes, and single dots behind them. -/
inductive Blank : List Char → Prop
  | nil : Blank []
  | slash {rest : List Char} (blank : Blank rest) : Blank ('/' :: rest)
  | dot {rest : List Char} (blank : Blank rest) : Blank ('/' :: '.' :: rest)

theorem Blank.append {first later : List Char} (blank : Blank first) (blank' : Blank later) :
    Blank (first ++ later) := by
  induction blank with
  | nil => exact blank'
  | slash _ ih => exact .slash ih
  | dot _ ih => exact .dot ih

theorem Blank.of_prefix {whole part : List Char} (blank : Blank whole) (cut : part <+: whole) :
    Blank part := by
  induction blank generalizing part with
  | nil => rw [List.prefix_nil.mp cut]; exact .nil
  | slash _ ih =>
    cases part with
    | nil => exact .nil
    | cons c part =>
      obtain ⟨rfl, behind⟩ := List.cons_prefix_cons.mp cut
      exact .slash (ih behind)
  | dot _ ih =>
    cases part with
    | nil => exact .nil
    | cons c part =>
      obtain ⟨rfl, behind⟩ := List.cons_prefix_cons.mp cut
      cases part with
      | nil => exact .slash .nil
      | cons d part =>
        obtain ⟨rfl, later⟩ := List.cons_prefix_cons.mp behind
        exact .dot (ih later)

theorem Blank.ends {blank : List Char} (is_blank : Blank blank) :
    blank = [] ∨ (∃ rest, blank = rest ++ ['/']) ∨ ∃ rest, blank = rest ++ ['/'] ++ ['.'] := by
  induction is_blank with
  | nil => exact .inl rfl
  | slash _ ih =>
    obtain rfl | ⟨rest, rfl⟩ | ⟨rest, rfl⟩ := ih
    · exact .inr (.inl ⟨[], rfl⟩)
    · exact .inr (.inl ⟨'/' :: rest, rfl⟩)
    · exact .inr (.inr ⟨'/' :: rest, rfl⟩)
  | dot _ ih =>
    obtain rfl | ⟨rest, rfl⟩ | ⟨rest, rfl⟩ := ih
    · exact .inr (.inr ⟨[], rfl⟩)
    · exact .inr (.inl ⟨'/' :: '.' :: rest, rfl⟩)
    · exact .inr (.inr ⟨'/' :: '.' :: rest, rfl⟩)

theorem dropBlankComponents_append {blank : List Char} (is_blank : Blank blank)
    (back : List Char) :
    dropBlankComponents (blank.reverse ++ back) = dropBlankComponents back := by
  induction is_blank generalizing back with
  | nil => rfl
  | slash _ ih =>
    rw [List.reverse_cons, List.append_assoc, ih]
    rfl
  | dot _ ih =>
    rw [List.reverse_cons, List.reverse_cons, List.append_assoc, List.append_assoc, ih]
    rfl

theorem exists_blank (back : List Char) :
    ∃ blank, Blank blank ∧ back = blank.reverse ++ dropBlankComponents back := by
  fun_induction dropBlankComponents back with
  | case1 back ih =>
    obtain ⟨blank, is_blank, back_eq⟩ := ih
    refine ⟨blank ++ ['/'], is_blank.append (.slash .nil), ?_⟩
    rw [List.reverse_append, List.reverse_singleton, List.append_assoc, ← back_eq]
    rfl
  | case2 back ih =>
    obtain ⟨blank, is_blank, back_eq⟩ := ih
    refine ⟨blank ++ ['/', '.'], is_blank.append (.dot .nil), ?_⟩
    rw [List.reverse_append, List.append_assoc, ← back_eq]
    rfl
  | case3 back => exact ⟨[], .nil, rfl⟩

/-- The last component of a path, other than a single dot, with what stands in
front of it and what counts for nothing behind it. -/
structure Spelled (p : Path) (front name blank : List Char) : Prop where
  chars_eq : p.chars = front ++ name ++ blank
  in_front : front = [] ∨ ∃ before, front = before ++ ['/']
  plain : '/' ∉ name
  some_name : name ≠ []
  not_dot : name ≠ ['.']
  blank : Blank blank

/-- A name that is no single dot is the last component that counts. -/
theorem dropBlankComponents_name {front name : List Char} (plain : '/' ∉ name)
    (some_name : name ≠ []) (not_dot : name ≠ ['.']) :
    dropBlankComponents (name.reverse ++ front) = name.reverse ++ front := by
  rw [← List.mem_reverse] at plain
  rw [← List.reverse_ne_nil_iff] at some_name
  have not_dot' : name.reverse ≠ ['.'] := fun dot => not_dot (List.reverse_eq_iff.mp dot)
  match name.reverse, plain, some_name, not_dot' with
  | [c], plain, _, not_dot =>
    rw [List.singleton_append, dropBlankComponents]
    · rintro rest ⟨rfl, _⟩
      exact plain List.mem_cons_self
    · rintro rest ⟨rfl, _⟩
      exact not_dot rfl
  | c :: d :: back, plain, _, _ =>
    rw [List.cons_append, List.cons_append, dropBlankComponents]
    · rintro rest ⟨rfl, _⟩
      exact plain List.mem_cons_self
    · rintro rest ⟨_, rfl, _⟩
      exact plain (List.mem_cons_of_mem _ List.mem_cons_self)

namespace Spelled

variable {p : Path} {front name blank : List Char}

theorem backwards_eq (spelled : Spelled p front name blank) :
    p.backwards = name.reverse ++ front.reverse := by
  rw [backwards, spelled.chars_eq, List.reverse_append, List.reverse_append,
    dropBlankComponents_append spelled.blank,
    dropBlankComponents_name spelled.plain spelled.some_name spelled.not_dot]

theorem not_slash (spelled : Spelled p front name blank) :
    ∀ c ∈ name.reverse, (c != '/') = true := by
  intro c among
  rw [List.mem_reverse] at among
  exact bne_iff_ne.mpr fun slash => spelled.plain (slash ▸ among)

theorem lastComponent_eq (spelled : Spelled p front name blank) : p.lastComponent = name := by
  have nothing : front.reverse.takeWhile (· != '/') = [] := by
    obtain rfl | ⟨before, rfl⟩ := spelled.in_front
    · rfl
    · rw [List.reverse_append]
      rfl
  rw [lastComponent, spelled.backwards_eq, List.takeWhile_append_of_pos spelled.not_slash, nothing,
    List.append_nil, List.reverse_reverse]

theorem beforeLast_eq (spelled : Spelled p front name blank) : p.beforeLast = front := by
  have whole : front.reverse.dropWhile (· != '/') = front.reverse := by
    obtain rfl | ⟨before, rfl⟩ := spelled.in_front
    · rfl
    · rw [List.reverse_append]
      rfl
  rw [beforeLast, spelled.backwards_eq, List.dropWhile_append_of_pos spelled.not_slash, whole,
    List.reverse_reverse]

theorem fileName?_eq (spelled : Spelled p front name blank) :
    p.fileName? = if name = ['.', '.'] then none else some name := by
  rw [fileName?, spelled.lastComponent_eq]
  simp only [spelled.some_name, spelled.not_dot, false_or]

end Spelled

theorem exists_spelled {p : Path} {name : List Char} (named : p.fileName? = some name) :
    name ≠ ['.', '.'] ∧ ∃ blank, Spelled p p.beforeLast name blank := by
  unfold fileName? at named
  dsimp only at named
  split at named
  · cases named
  · next proper =>
    cases named
    simp only [not_or] at proper
    obtain ⟨some_name, not_dot, not_up⟩ := proper
    obtain ⟨blank, is_blank, back_eq⟩ := exists_blank p.chars.reverse
    refine ⟨not_up, blank, ?_, ?_, ?_, some_name, not_dot, is_blank⟩
    · rw [beforeLast, lastComponent, ← List.reverse_append, List.takeWhile_append_dropWhile,
        ← List.reverse_inj, List.reverse_append, List.reverse_reverse]
      exact back_eq
    · rw [beforeLast]
      cases behind : p.backwards.dropWhile (· != '/') with
      | nil => exact .inl rfl
      | cons c back =>
        have some_left : p.backwards.dropWhile (· != '/') ≠ [] := by
          rw [behind]
          exact List.cons_ne_nil c back
        have slash := List.head_dropWhile_not (· != '/') some_left
        simp only [behind, List.head_cons, bne_eq_false_iff_eq] at slash
        exact .inr ⟨back.reverse, by rw [slash, List.reverse_cons]⟩
    · rw [lastComponent, List.mem_reverse]
      intro among
      exact absurd (List.mem_takeWhile_imp among) (by decide)

/-- The name is split at its last dot, which is not its first character. -/
theorem splitExtension_eq {stem extension : List Char} (some_stem : stem ≠ [])
    (no_dot : '.' ∉ extension) :
    splitExtension (stem ++ '.' :: extension) = (stem, some extension) := by
  have behind : ∀ c ∈ extension.reverse, (c != '.') = true := by
    intro c among
    rw [List.mem_reverse] at among
    exact bne_iff_ne.mpr fun dot => no_dot (dot ▸ among)
  have back : (stem ++ '.' :: extension).reverse = extension.reverse ++ '.' :: stem.reverse := by
    rw [List.reverse_append, List.reverse_cons, List.append_assoc, List.singleton_append]
  have rest : ('.' :: stem.reverse).dropWhile (· != '.') = '.' :: stem.reverse := rfl
  have none_left : ('.' :: stem.reverse).takeWhile (· != '.') = [] := rfl
  rw [splitExtension, back, List.dropWhile_append_of_pos behind, rest]
  cases turned : stem.reverse with
  | nil => exact absurd (List.reverse_eq_nil_iff.mp turned) some_stem
  | cons c others =>
    simp only [← turned, List.takeWhile_append_of_pos behind, none_left, List.append_nil,
      List.reverse_reverse]

theorem exists_stem {name extension : List Char}
    (split_at : (splitExtension name).2 = some extension) :
    ∃ stem, name = stem ++ '.' :: extension ∧ stem ≠ [] ∧ '.' ∉ extension := by
  unfold splitExtension at split_at
  dsimp only at split_at
  split at split_at
  · next dot c rest behind =>
    cases split_at
    have some_left : name.reverse.dropWhile (· != '.') ≠ [] := by
      rw [behind]
      exact List.cons_ne_nil dot (c :: rest)
    have is_dot := List.head_dropWhile_not (· != '.') some_left
    simp only [behind, List.head_cons, bne_eq_false_iff_eq] at is_dot
    subst is_dot
    refine ⟨(c :: rest).reverse, ?_, by simp, ?_⟩
    · rw [← List.reverse_inj, List.reverse_append, List.reverse_cons, List.reverse_reverse,
        List.reverse_reverse, List.append_assoc, List.singleton_append, ← behind,
        List.takeWhile_append_dropWhile]
    · rw [List.mem_reverse]
      intro among
      exact absurd (List.mem_takeWhile_imp among) (by decide)
  · cases split_at

theorem extended_ne_dot {stem : List Char} (some_stem : stem ≠ []) (extension : List Char) :
    stem ++ '.' :: extension ≠ ['.'] := by
  intro dot
  obtain ⟨none_left, _⟩ | ⟨_, impossible⟩ := List.append_eq_singleton_iff.mp dot
  · exact some_stem none_left
  · cases impossible

theorem extended_eq_up_iff {stem extension : List Char} (some_stem : stem ≠ []) :
    stem ++ '.' :: extension = ['.', '.'] ↔ stem = ['.'] ∧ extension = [] := by
  cases stem with
  | nil => exact absurd rfl some_stem
  | cons c rest => cases rest <;> simp

/-- The same with the file name split at its last dot. -/
structure Extended (p : Path) (front stem extension blank : List Char) : Prop
    extends Spelled p front (stem ++ '.' :: extension) blank where
  not_up : stem ++ '.' :: extension ≠ ['.', '.']
  some_stem : stem ≠ []
  no_dot : '.' ∉ extension

theorem exists_extended {p : Path} {extension : List Char}
    (extended : p.extension? = some extension) :
    ∃ stem blank, Extended p p.beforeLast stem extension blank := by
  obtain ⟨name, named, split_at⟩ := Option.bind_eq_some_iff.mp extended
  obtain ⟨stem, rfl, some_stem, no_dot⟩ := exists_stem split_at
  obtain ⟨not_up, blank, spelled⟩ := exists_spelled named
  exact ⟨stem, blank, spelled, not_up, some_stem, no_dot⟩

/-- The file name leaves nothing but two dots without its extension, and the text
ends in it. -/
def Collapses (p : Path) : Prop :=
  p.stem? = some ['.'] ∧ p.chars = p.beforeLast ++ p.lastComponent

instance : DecidablePred Collapses := fun _ => inferInstanceAs (Decidable (_ ∧ _))

namespace Extended

variable {p : Path} {front stem old blank : List Char}

theorem fileName?_eq (extended : Extended p front stem old blank) :
    p.fileName? = some (stem ++ '.' :: old) := by
  rw [extended.toSpelled.fileName?_eq, if_neg extended.not_up]

theorem extension?_eq (extended : Extended p front stem old blank) : p.extension? = some old := by
  rw [extension?, extended.fileName?_eq, Option.bind_some,
    splitExtension_eq extended.some_stem extended.no_dot]

theorem stem?_eq (extended : Extended p front stem old blank) : p.stem? = some stem := by
  rw [stem?, extended.fileName?_eq, Option.map_some,
    splitExtension_eq extended.some_stem extended.no_dot]

theorem collapses_iff (extended : Extended p front stem old blank) :
    p.Collapses ↔ stem = ['.'] ∧ blank = [] := by
  rw [Collapses, extended.stem?_eq, extended.beforeLast_eq, extended.lastComponent_eq,
    extended.chars_eq, List.append_right_eq_self, Option.some.injEq]

/-- A path is a name in front of its extension, and may have blanks behind it. -/
theorem of_name {front stem extension : List Char}
    (in_front : front = [] ∨ ∃ before, front = before ++ ['/']) (plain : '/' ∉ stem)
    (plain' : '/' ∉ extension) (no_dot : '.' ∉ extension) (some_stem : stem ≠ [])
    (some_extension : extension ≠ []) :
    Extended ⟨front ++ stem ++ '.' :: extension⟩ front stem extension [] where
  chars_eq := by rw [List.append_nil, List.append_assoc]
  in_front := in_front
  plain := by simp [plain, plain']
  some_name := by simp
  not_dot := extended_ne_dot some_stem extension
  blank := .nil
  not_up := fun up => some_extension ((extended_eq_up_iff some_stem).mp up).2
  some_stem := some_stem
  no_dot := no_dot

/-- As many characters as the old extension has are cut off the end, which may
leave some of it if blanks stand behind it. -/
theorem cut_chars (extended : Extended p front stem old blank) :
    p.chars.take (p.chars.length - old.length) =
      front ++ (stem ++ '.' :: old.take blank.length) ++
        blank.take (blank.length - old.length) := by
  have cut : p.chars.length - old.length =
      (front ++ (stem ++ ['.'])).length + blank.length := by
    rw [extended.chars_eq]
    simp only [List.length_append, List.length_cons, List.length_nil]
    omega
  have chars_eq : p.chars = front ++ (stem ++ ['.']) ++ (old ++ blank) := by
    rw [extended.chars_eq]
    simp only [List.append_assoc, List.cons_append, List.nil_append]
  rw [cut, chars_eq, List.take_length_add_append, List.take_append]
  simp only [List.append_assoc, List.cons_append, List.nil_append]

theorem cut_spelled (extended : Extended p front stem old blank) :
    Spelled ⟨p.chars.take (p.chars.length - old.length)⟩ front
      (stem ++ '.' :: old.take blank.length) (blank.take (blank.length - old.length)) where
  chars_eq := extended.cut_chars
  in_front := extended.in_front
  plain := by
    have plain := extended.plain
    simp only [List.mem_append, List.mem_cons, not_or] at plain ⊢
    exact ⟨plain.1, plain.2.1, fun among => plain.2.2 (List.mem_of_mem_take among)⟩
  some_name := by simp
  not_dot := extended_ne_dot extended.some_stem _
  blank := extended.blank.of_prefix (List.take_prefix ..)

/-- **Another extension takes the place of the old one.** -/
theorem withExtension_eq (extended : Extended p front stem old blank) (kept : ¬p.Collapses)
    (extension : List Char) :
    p.withExtension extension = ⟨front ++ stem ++ '.' :: extension⟩ := by
  -- With blanks behind the name, the cut leaves some of the old extension: a
  -- shorter one, in front of which the stem is the same.
  have not_up : stem ++ '.' :: old.take blank.length ≠ ['.', '.'] := by
    intro up
    obtain ⟨dot, nothing⟩ := (extended_eq_up_iff extended.some_stem).mp up
    obtain blank_empty | old_empty := List.take_eq_nil_iff.mp nothing
    · exact kept (extended.collapses_iff.mpr ⟨dot, List.length_eq_zero_iff.mp blank_empty⟩)
    · exact extended.not_up ((extended_eq_up_iff extended.some_stem).mpr ⟨dot, old_empty⟩)
  have shorter : Extended ⟨p.chars.take (p.chars.length - old.length)⟩ front stem
      (old.take blank.length) (blank.take (blank.length - old.length)) :=
    ⟨extended.cut_spelled, not_up, extended.some_stem,
      fun among => extended.no_dot (List.mem_of_mem_take among)⟩
  rw [withExtension, extended.extension?_eq]
  dsimp only
  rw [setExtension, shorter.stem?_eq, shorter.beforeLast_eq]

/-- Cut off behind its two dots, the path names no file, and stays as it is. -/
theorem withExtension_of_collapses (extended : Extended p front stem old blank)
    (collapses : p.Collapses) (extension : List Char) :
    p.withExtension extension = ⟨front ++ ['.', '.']⟩ := by
  obtain ⟨rfl, rfl⟩ := extended.collapses_iff.mp collapses
  have up : Spelled ⟨p.chars.take (p.chars.length - old.length)⟩ front ['.', '.'] [] := by
    simpa using extended.cut_spelled
  rw [withExtension, extended.extension?_eq]
  dsimp only
  rw [setExtension, stem?, up.fileName?_eq, if_pos rfl, Option.map_none]
  dsimp only
  have chars_eq := up.chars_eq
  rw [List.append_nil] at chars_eq
  exact congrArg Path.mk chars_eq

end Extended

end RawReel.Path
