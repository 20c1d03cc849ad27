import Mathlib.Algebra.Order.BigOperators.Group.List
import Mathlib.Algebra.Order.Group.Nat
import Mathlib.Algebra.Ring.Nat
import RawReel.Index

/-!
# Where frames stand

The files of a recording, joined, are one run of bytes. Main statements:

* `place_placed`: the file and the offset found for a byte are where it stands;
* `Placed.unique`, `Placed.lt`: no byte stands in two places, and a later byte
  stands further on;
* `Placed.drop_flatten`: what follows that byte in the joined files is the rest
  of its file and then the files after it.
-/

namespace RawReel

theorem of_drop_eq_cons {α : Type} {l rest : List α} {k : Nat} {a : α} (h : l.drop k = a :: rest) :
    l[k]? = some a ∧ l.drop (k + 1) = rest := by
  constructor
  · have first := congrArg (·[0]?) h
    simpa only [List.getElem?_drop, Nat.add_zero, List.getElem?_cons_zero] using first
  · rw [← List.drop_drop, h]; rfl

theorem sum_take_succ {lengths : List Nat} {k length : Nat} (there : lengths[k]? = some length) :
    (lengths.take (k + 1)).sum = (lengths.take k).sum + length := by
  simp [List.take_add_one, there]

/-- The byte at `offset` of all files joined stands at `inner` in `file`. Only
past the end of the last file does it stand past the end of a file. -/
structure Placed (lengths : List Nat) (offset file inner : Nat) : Prop where
  file_lt : file < lengths.length
  offset_eq : (lengths.take file).sum + inner = offset
  inside : ∀ {length}, lengths[file]? = some length → file + 1 < lengths.length → inner < length

/-- The walk keeps the offset: what it has passed, and what is left of it. -/
theorem placeFrom_placed {lengths rest : List Nat} {file offset total : Nat}
    (ahead : lengths.drop file = rest) (nonempty : rest ≠ [])
    (passed : (lengths.take file).sum + offset = total) :
    Placed lengths total (placeFrom file offset rest).1 (placeFrom file offset rest).2 := by
  fun_induction placeFrom file offset rest with
  | case1 file offset length next rest le ih =>
    obtain ⟨there, ahead'⟩ := of_drop_eq_cons ahead
    apply ih ahead' (List.cons_ne_nil _ _)
    rw [sum_take_succ there]
    omega
  | case2 file offset length next rest lt =>
    obtain ⟨there, ahead'⟩ := of_drop_eq_cons ahead
    refine ⟨(List.getElem?_eq_some_iff.mp there).1, passed, ?_⟩
    intro length' there' _
    rw [there, Option.some.injEq] at there'
    omega
  | case3 rest file offset short =>
    obtain ⟨length, rfl⟩ : ∃ length, rest = [length] := by
      match rest, nonempty, short with
      | [length], _, _ => exact ⟨length, rfl⟩
      | length :: next :: rest, _, short => exact absurd rfl (short length next rest)
    have last := congrArg List.length ahead
    rw [List.length_drop, List.length_singleton] at last
    exact ⟨by omega, passed, fun _ next => by omega⟩

theorem place_placed {lengths : List Nat} (nonempty : lengths ≠ []) (offset : Nat) :
    Placed lengths offset (place lengths offset).1 (place lengths offset).2 :=
  placeFrom_placed (by simp) nonempty (by simp)

namespace Placed

/-- A byte stands in the file whose stretch of the joined files it is in. -/
theorem of_within {lengths : List Nat} {offset file length : Nat}
    (there : lengths[file]? = some length) (starts : (lengths.take file).sum ≤ offset)
    (before_end : offset < (lengths.take file).sum + length) :
    Placed lengths offset file (offset - (lengths.take file).sum) where
  file_lt := (List.getElem?_eq_some_iff.mp there).1
  offset_eq := Nat.add_sub_cancel' starts
  inside := by
    intro length' there' _
    rw [there, Option.some.injEq] at there'
    omega

/-- A byte in front of the end of all files stands inside its file. -/
theorem inner_lt {lengths : List Nat} {offset file inner length : Nat}
    (h : Placed lengths offset file inner) (there : lengths[file]? = some length)
    (within : offset < lengths.sum) : inner < length := by
  by_cases last : file + 1 < lengths.length
  · exact h.inside there last
  · have all : lengths.take (file + 1) = lengths := List.take_of_length_le (by omega)
    have := sum_take_succ there
    have := h.offset_eq
    rw [all] at *
    omega

/-- A byte that is not behind another one stands in no later file. -/
theorem not_lt {lengths : List Nat} {offset file inner offset' file' inner' : Nat}
    (h : Placed lengths offset file inner) (h' : Placed lengths offset' file' inner')
    (le : offset' ≤ offset) : ¬ file < file' := by
  intro before
  have there := List.getElem?_eq_getElem h.file_lt
  have inside := h.inside there (Nat.lt_of_le_of_lt before h'.file_lt)
  have passed := sum_take_succ there
  have later : (lengths.take (file + 1)).sum ≤ (lengths.take file').sum :=
    List.monotone_sum_take lengths before
  have start_eq := h.offset_eq
  have start_eq' := h'.offset_eq
  omega

/-- **A byte stands in one place.** -/
theorem unique {lengths : List Nat} {offset file inner file' inner' : Nat}
    (h : Placed lengths offset file inner) (h' : Placed lengths offset file' inner') :
    file = file' ∧ inner = inner' := by
  have not_before := h.not_lt h' (Nat.le_refl offset)
  have not_behind := h'.not_lt h (Nat.le_refl offset)
  obtain rfl : file = file' := by omega
  have start_eq := h.offset_eq
  have start_eq' := h'.offset_eq
  exact ⟨rfl, by omega⟩

/-- Bytes stand in the files in their order. -/
theorem lt {lengths : List Nat} {offset file inner offset' file' inner' : Nat}
    (h : Placed lengths offset file inner) (h' : Placed lengths offset' file' inner')
    (before : offset < offset') : file < file' ∨ file = file' ∧ inner < inner' := by
  have not_behind := h'.not_lt h (Nat.le_of_lt before)
  by_cases same : file = file'
  · subst same
    have start_eq := h.offset_eq
    have start_eq' := h'.offset_eq
    exact .inr ⟨rfl, by omega⟩
  · exact .inl (by omega)

theorem drop_flatten {contents : List Bytes} {offset file inner : Nat}
    (h : Placed (contents.map List.length) offset file inner) :
    contents.flatten.drop offset = (contents.drop file).flatten.drop inner := by
  have passed : (contents.take file).flatten.length + inner = offset := by
    rw [List.length_flatten, List.map_take]
    exact h.offset_eq
  have joined : contents.flatten = (contents.take file).flatten ++ (contents.drop file).flatten := by
    rw [← List.flatten_append, List.take_append_drop]
  rw [← passed, joined, List.drop_length_add_append]

end Placed

end RawReel
