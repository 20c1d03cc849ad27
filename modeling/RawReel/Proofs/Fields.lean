import RawReel.Block

/-!
# The fields of packed records

A record is packed field behind field. How many bytes there are therefore says
which of its fields are there in full, and which one is the first that is not.

* `Layout.exists_cut`: bytes that are too few for a layout end inside one field;
* `Cursor.Follows`: a reader takes the fields of a layout one by one: it goes
  through if all of them are there, and fails at the first that is not;
* `Follows.bind`: readers one after the other follow one layout after the other;
* `Record.decodeTagged_whole`, `Record.decodeTagged_cut`: a record behind its code
  is read if it is there in full, and otherwise refused for the field that it
  ends in.
-/

namespace RawReel

/-- A field of a packed record, and how many bytes it takes up. -/
inductive Field
  | word (width : Nat)
  | bytes (count : Nat)
  deriving DecidableEq

namespace Field

def width : Field → Nat
  | word width => width
  | bytes count => count

/-- How a read of the field fails at `offset`. -/
def cutAt (offset : Nat) : Field → EndOfRecord
  | word width => .word (8 * width) offset
  | bytes count => .bytes count offset

/-- The field, as a failed read of it calls it. -/
def request : Field → String
  | word width => s!"get_n({8 * width})"
  | bytes count => s!"get_bytes({count})"

/-- A failed read tells the field, and the offset of its first byte. -/
theorem toIoError_cutAt (field : Field) (offset : Nat) :
    (field.cutAt offset).toIoError =
      ⟨.unexpectedEof, field.request ++ s!": out of bounds at byte {offset}"⟩ := by
  cases field <;>
    simp only [cutAt, request, EndOfRecord.toIoError, EndOfRecord.message, String.append_assoc] <;>
    rfl

end Field

/-- The fields of a record, in order. -/
abbrev Layout := List Field

namespace Layout

/-- Bytes of a record of the layout. -/
def size : Layout → Nat
  | [] => 0
  | field :: layout => field.width + size layout

@[simp] theorem size_nil : size [] = 0 := rfl

@[simp] theorem size_cons (field : Field) (layout : Layout) :
    size (field :: layout) = field.width + size layout := rfl

@[simp] theorem size_append (front back : Layout) :
    size (front ++ back) = size front + size back := by
  induction front with
  | nil => simp
  | cons field front ih => simp [ih, Nat.add_assoc]

/-- **Too few bytes end inside one field**: all fields in front of it are there. -/
theorem exists_cut {layout : Layout} {length : Nat} (short : length < layout.size) :
    ∃ front field back, layout = front ++ field :: back ∧ size front ≤ length ∧
      length < size front + field.width := by
  induction layout generalizing length with
  | nil => cases short
  | cons first layout ih =>
    by_cases here : length < first.width
    · exact ⟨[], first, layout, rfl, Nat.zero_le _, by simpa using here⟩
    · have left : length - first.width < size layout := by
        rw [size_cons] at short
        omega
      obtain ⟨front, field, back, rfl, starts, ends⟩ := ih left
      refine ⟨first :: front, field, back, rfl, ?_, ?_⟩ <;> rw [size_cons] <;> omega

end Layout

namespace Cursor

/-- `read` takes the fields of `layout` one by one. It goes through if all of
them are there, and otherwise fails at the one that the bytes end in. -/
structure Follows {α : Type} (read : Read α) (layout : Layout) : Prop where
  whole : ∀ c : Cursor, layout.size ≤ c.rest.length →
    ∃ x, read c = .ok x ⟨c.rest.drop layout.size, c.offset + layout.size⟩
  cut : ∀ (c : Cursor) {front back : Layout} {field : Field}, layout = front ++ field :: back →
    front.size ≤ c.rest.length → c.rest.length < front.size + field.width →
    ∃ c', read c = .error (field.cutAt (c.offset + front.size)) c'

theorem Follows.bind {α β : Type} {read : Read α} {next : α → Read β} {first later : Layout}
    (follows : Follows read first) (follows_next : ∀ x, Follows (next x) later) :
    Follows (read >>= next) (first ++ later) where
  whole := by
    intro c long
    rw [Layout.size_append] at long ⊢
    obtain ⟨x, read_eq⟩ := follows.whole c (Nat.le_of_add_right_le long)
    obtain ⟨y, next_eq⟩ := (follows_next x).whole ⟨c.rest.drop first.size, c.offset + first.size⟩
      (by rw [List.length_drop]; omega)
    refine ⟨y, ?_⟩
    simp only [Bind.bind, EStateM.bind, read_eq, next_eq, List.drop_drop, Nat.add_assoc]
  cut := by
    intro c front back field split starts ends
    -- The field that the bytes end in is one of the first reader's or one of the second's.
    obtain ⟨between, rfl, later_eq⟩ | ⟨between, first_eq, later_eq⟩ :=
      List.append_eq_append_iff.mp split
    · rw [Layout.size_append] at starts ends
      obtain ⟨x, read_eq⟩ := follows.whole c (Nat.le_of_add_right_le starts)
      obtain ⟨c', next_eq⟩ := (follows_next x).cut
        ⟨c.rest.drop first.size, c.offset + first.size⟩ later_eq
        (by rw [List.length_drop]; omega) (by rw [List.length_drop]; omega)
      refine ⟨c', ?_⟩
      simp only [Bind.bind, EStateM.bind, read_eq, next_eq, Layout.size_append, Nat.add_assoc]
    · cases between with
      | nil =>
        rw [List.append_nil] at first_eq
        subst first_eq
        have at_start : later = [] ++ field :: back := later_eq.symm
        obtain ⟨x, read_eq⟩ := follows.whole c starts
        obtain ⟨c', next_eq⟩ := (follows_next x).cut
          ⟨c.rest.drop first.size, c.offset + first.size⟩ at_start (Nat.zero_le _)
          (by rw [List.length_drop, Layout.size_nil]; omega)
        refine ⟨c', ?_⟩
        simp only [Bind.bind, EStateM.bind, read_eq, next_eq, Layout.size_nil, Nat.add_zero]
      | cons other between =>
        obtain ⟨rfl, rfl⟩ := List.cons_eq_cons.mp later_eq
        obtain ⟨c', read_eq⟩ := follows.cut c first_eq starts ends
        exact ⟨c', by simp only [Bind.bind, EStateM.bind, read_eq]⟩

theorem follows_pure {α : Type} (x : α) : Follows (pure x) [] where
  whole c _ := ⟨x, rfl⟩
  cut c front back field split := by simp at split

/-- A reader of one field follows the layout that has just this field. -/
theorem follows_field {α : Type} {read : Read α} {field : Field}
    (whole : ∀ c : Cursor, field.width ≤ c.rest.length →
      ∃ x, read c = .ok x ⟨c.rest.drop field.width, c.offset + field.width⟩)
    (cut : ∀ c : Cursor, c.rest.length < field.width → read c = .error (field.cutAt c.offset) c) :
    Follows read [field] where
  whole := whole
  cut := by
    intro c front back other split starts ends
    obtain ⟨rfl, one⟩ | ⟨_, rfl, nothing⟩ := List.cons_eq_append_iff.mp split
    · obtain ⟨rfl, rfl⟩ := List.cons_eq_cons.mp one
      rw [Layout.size_nil, Nat.zero_add] at ends
      exact ⟨c, cut c ends⟩
    · simp at nothing

theorem follows_word {α : Type} [Word α] : Follows (word α) [.word (Word.width α)] :=
  follows_field (fun _ long => ⟨_, if_pos long⟩) fun _ short => if_neg (Nat.not_le_of_lt short)

theorem follows_fixed {n : Nat} : Follows (fixed n) [.bytes n] :=
  follows_field (fun _ long => ⟨_, dif_pos long⟩) fun _ short => dif_neg (Nat.not_le_of_lt short)

end Cursor

open Cursor

theorem PreviewCrop.follows : Follows read (List.replicate 4 (.word 4)) :=
  follows_word.bind fun _ => follows_word.bind fun _ => follows_word.bind fun _ =>
  follows_word.bind fun _ => follows_pure _

theorem ActiveArea.follows : Follows read (List.replicate 4 (.word 4)) :=
  follows_word.bind fun _ => follows_word.bind fun _ => follows_word.bind fun _ =>
  follows_word.bind fun _ => follows_pure _

theorem Ratio.follows : Follows read (List.replicate 2 (.word 4)) :=
  follows_word.bind fun _ => follows_word.bind fun _ => follows_pure _

theorem ColorRow.follows : Follows read (List.replicate 6 (.word 4)) :=
  Ratio.follows.bind fun _ => Ratio.follows.bind fun _ => Ratio.follows.bind fun _ =>
    follows_pure _

theorem ColorMatrix.follows : Follows read (List.replicate 18 (.word 4)) :=
  ColorRow.follows.bind fun _ => ColorRow.follows.bind fun _ => ColorRow.follows.bind fun _ =>
    follows_pure _

/-- The numbers of a sensor descriptor: forty words of one size. -/
def SensorInfo.layout : Layout := List.replicate 40 (.word 4)

theorem SensorInfo.follows : Follows read layout :=
  follows_word.bind fun _ => follows_word.bind fun _ => follows_word.bind fun _ =>
  follows_word.bind fun _ => follows_word.bind fun _ => follows_word.bind fun _ =>
  follows_word.bind fun _ => follows_word.bind fun _ => follows_word.bind fun _ =>
  PreviewCrop.follows.bind fun _ => ActiveArea.follows.bind fun _ =>
  Ratio.follows.bind fun _ => follows_word.bind fun _ => follows_word.bind fun _ =>
  ColorMatrix.follows.bind fun _ => follows_word.bind fun _ => follows_pure _

/-- The fields of a footer behind its magic. -/
def Footer.layout : Layout :=
  [.word 2, .word 2, .word 4, .word 4, .word 4, .word 4, .word 4, .word 4] ++ SensorInfo.layout

theorem Footer.follows : Follows readFields layout :=
  follows_word.bind fun _ => follows_word.bind fun _ => follows_word.bind fun _ =>
  follows_word.bind fun _ => follows_word.bind fun _ => follows_word.bind fun _ =>
  follows_word.bind fun _ => follows_word.bind fun _ =>
  SensorInfo.follows.bind fun _ => follows_pure _

/-- The fields of a file header, its tag first. -/
def FileHeader.layout : Layout :=
  [.bytes 4, .word 4, .bytes 8, .word 8, .word 2, .word 2, .word 4, .word 2, .word 2, .word 4,
    .word 4, .word 4, .word 4]

theorem FileHeader.follows : Follows readFields layout.tail :=
  follows_word.bind fun _ => follows_fixed.bind fun _ => follows_word.bind fun _ =>
  follows_word.bind fun _ => follows_word.bind fun _ => follows_word.bind fun _ =>
  follows_word.bind fun _ => follows_word.bind fun _ => follows_word.bind fun _ =>
  follows_word.bind fun _ => follows_word.bind fun _ => follows_word.bind fun _ =>
  follows_pure _

/-- The fields of a raw info header, its tag first. -/
def RawInfoHeader.layout : Layout :=
  [.bytes 4, .word 4, .word 8, .word 2, .word 2] ++ SensorInfo.layout

theorem RawInfoHeader.follows : Follows readFields layout.tail :=
  follows_word.bind fun _ => follows_word.bind fun _ => follows_word.bind fun _ =>
  follows_word.bind fun _ => SensorInfo.follows.bind fun _ => follows_pure _

/-- The fields of a video frame header, its tag first. -/
def VideoFrameHeader.layout : Layout :=
  [.bytes 4, .word 4, .word 8, .word 4, .word 2, .word 2, .word 2, .word 2, .word 4]

theorem VideoFrameHeader.follows : Follows readFields layout.tail :=
  follows_word.bind fun _ => follows_word.bind fun _ => follows_word.bind fun _ =>
  follows_word.bind fun _ => follows_word.bind fun _ => follows_word.bind fun _ =>
  follows_word.bind fun _ => follows_word.bind fun _ => follows_pure _

namespace Record

variable {α : Type} {read : Read α} {layout : Layout} {data : Bytes}

/-- The code in front of a record is read before anything else. -/
theorem decodeTagged_of_starts {found : FourCC} (starts : found.bytes <+: data) (code : FourCC)
    (refused : FourCC → FormatError) (read : Read α) :
    decodeTagged code refused read data =
      if found = code then fields read ⟨data.drop 4, 4⟩ else .error (refused found) := by
  have taken := List.prefix_iff_eq_take.mp starts
  rw [found.length_eq] at taken
  have long : 4 ≤ data.length := found.length_eq ▸ starts.length_le
  have first : fixed 4 (.ofBytes data) = .ok found ⟨data.drop 4, 4⟩ := by
    simp only [fixed, Cursor.ofBytes, dif_pos long, ← taken, Nat.zero_add]
  rw [decodeTagged, first]

/-- What is decoded starts with the code. -/
theorem starts_of_decodeTagged {code : FourCC} {refused : FourCC → FormatError} {x : α}
    (ok : decodeTagged code refused read data = .ok x) : code.bytes <+: data := by
  by_cases long : 4 ≤ data.length
  · let found : FourCC := ⟨data.take 4, List.length_take_of_le long⟩
    have starts : found.bytes <+: data := List.take_prefix ..
    rw [decodeTagged_of_starts starts] at ok
    split at ok
    · next same => exact same ▸ starts
    · cases ok
  · have short : fixed 4 (.ofBytes data) = .error (.bytes 4 0) (.ofBytes data) := dif_neg long
    rw [decodeTagged, short] at ok
    cases ok

theorem decodeTagged_whole (follows : Follows read layout) {code : FourCC}
    (starts : code.bytes <+: data) (long : 4 + layout.size ≤ data.length)
    (refused : FourCC → FormatError) : ∃ x, decodeTagged code refused read data = .ok x := by
  obtain ⟨x, read_eq⟩ := follows.whole ⟨data.drop 4, 4⟩ (by rw [List.length_drop]; omega)
  refine ⟨x, ?_⟩
  rw [decodeTagged_of_starts starts, if_pos rfl, fields, read_eq]

/-- **A record that ends too early** is refused for the field that it ends in;
that may be the code in front of it. -/
theorem decodeTagged_cut (follows : Follows read layout) {code : FourCC}
    (tagged : data.length < 4 ∨ code.bytes <+: data) {front back : Layout} {field : Field}
    (split : .bytes 4 :: layout = front ++ field :: back) (starts : front.size ≤ data.length)
    (ends : data.length < front.size + field.width) (refused : FourCC → FormatError) :
    decodeTagged code refused read data =
      .error (.layout (field.cutAt front.size).toIoError) := by
  cases front with
  | nil =>
    obtain ⟨rfl, rfl⟩ := List.cons_eq_cons.mp split
    have short : fixed 4 (.ofBytes data) = .error (.bytes 4 0) (.ofBytes data) :=
      dif_neg (Nat.not_le_of_lt (Nat.zero_add 4 ▸ ends))
    rw [decodeTagged, short]
    rfl
  | cons first front =>
    obtain ⟨rfl, behind⟩ := List.cons_eq_cons.mp split
    rw [Layout.size_cons, Field.width] at starts ends ⊢
    have found : code.bytes <+: data := tagged.resolve_left (by omega)
    obtain ⟨c', read_eq⟩ := follows.cut ⟨data.drop 4, 4⟩ behind
      (by rw [List.length_drop]; omega) (by rw [List.length_drop]; omega)
    rw [decodeTagged_of_starts found, if_pos rfl, fields, read_eq]

end Record

end RawReel
