import RawReel.Proofs.JsonText

/-!
# Strings in JSON texts, and objects of strings

* `StringRest.unique`: a string stands for one list of characters;
* `reads_more_iff`, `reads_last_iff`: a member whose name and value are strings is read
  for what the two stand for, and for nothing else;
* `isText_object_iff`: what a text with such a member at its start is.
-/

namespace RawReel.JsonValue

variable {s rest : List Char}

/-- A character that stands for itself in a string. -/
def IsPlain (c : Char) : Prop := 0x20 ≤ c.toNat ∧ c ≠ '"' ∧ c ≠ '\\'

instance (c : Char) : Decidable (IsPlain c) := inferInstanceAs (Decidable (_ ∧ _ ∧ _))

theorem digit_plain {c : Char} (digit : c.isDigit = true) : IsPlain c := by
  obtain ⟨n, small, rfl⟩ := Text.exists_digitChar digit
  interval_cases n <;> decide

theorem Digits.plain (digits : Digits s rest) (plain : ∀ c ∈ rest, IsPlain c) :
    ∀ c ∈ s, IsPlain c := by
  induction digits with
  | last digit => exact List.forall_mem_cons.mpr ⟨digit_plain digit, plain⟩
  | more digit _ ih => exact List.forall_mem_cons.mpr ⟨digit_plain digit, ih plain⟩

theorem Fraction.plain (fraction : Fraction s rest) (plain : ∀ c ∈ rest, IsPlain c) :
    ∀ c ∈ s, IsPlain c := by
  cases fraction with
  | absent => exact plain
  | present digits => exact List.forall_mem_cons.mpr ⟨by decide, digits.plain plain⟩

/-- Between quotes, a text stands for these characters. -/
def Spells (text chars : List Char) : Prop :=
  ∀ rest : List Char, StringRest (text ++ '"' :: rest) chars rest

theorem spells_plain {text : List Char} (plain : ∀ c ∈ text, IsPlain c) : Spells text text := by
  intro rest
  induction text with
  | nil => exact .close
  | cons c text ih =>
    obtain ⟨shows, no_quote, no_backslash⟩ := plain c List.mem_cons_self
    exact .plain shows no_quote no_backslash
      (ih fun c among => plain c (List.mem_cons_of_mem _ among))

theorem Hex4.unique {m n : Nat} {rest' : List Char} (one : Hex4 s m rest) (other : Hex4 s n rest') :
    m = n ∧ rest = rest' := by
  obtain ⟨first, second, third, fourth⟩ := one
  obtain ⟨first', second', third', fourth'⟩ := other
  simp_all

theorem no_unit_named {c : Char} : ('u', c) ∉ named := by
  simp [named]

theorem named_unique {e c d : Char} (one : (e, c) ∈ named) (other : (e, d) ∈ named) : c = d := by
  have all : ∀ one ∈ named, ∀ other ∈ named, one.1 = other.1 → one.2 = other.2 := by simp [named]
  exact all _ one _ other rfl

theorem Escape.unique {c d : Char} {rest' : List Char} (one : Escape s c rest)
    (other : Escape s d rest') : c = d ∧ rest = rest' := by
  cases one with
  | named among =>
    cases other with
    | named among' => exact ⟨named_unique among among', rfl⟩
    | code | pair => exact absurd among no_unit_named
  | code digits no_half =>
    cases other with
    | named among => exact absurd among no_unit_named
    | code digits' =>
      obtain ⟨rfl, rfl⟩ := digits.unique digits'
      exact ⟨rfl, rfl⟩
    | pair first _ is_high =>
      obtain ⟨rfl, -⟩ := digits.unique first
      omega
  | pair first second is_high =>
    cases other with
    | named among => exact absurd among no_unit_named
    | code digits no_half =>
      obtain ⟨rfl, -⟩ := first.unique digits
      omega
    | pair first' second' =>
      obtain ⟨rfl, same⟩ := first.unique first'
      cases same
      obtain ⟨rfl, rfl⟩ := second.unique second'
      exact ⟨rfl, rfl⟩

/-- A string stands for one list of characters, and ends at one place. -/
theorem StringRest.unique {chars chars' rest' : List Char} (one : StringRest s chars rest)
    (other : StringRest s chars' rest') : chars = chars' ∧ rest = rest' := by
  induction one generalizing chars' with
  | close =>
    cases other with
    | close => exact ⟨rfl, rfl⟩
    | plain _ no_quote => exact absurd rfl no_quote
  | plain _ no_quote no_backslash _ ih =>
    cases other with
    | close => exact absurd rfl no_quote
    | plain _ _ _ later =>
      obtain ⟨rfl, rfl⟩ := ih later
      exact ⟨rfl, rfl⟩
    | escape => exact absurd rfl no_backslash
  | escape escape _ ih =>
    cases other with
    | plain _ _ no_backslash => exact absurd rfl no_backslash
    | escape escape' later =>
      obtain ⟨rfl, rfl⟩ := escape.unique escape'
      obtain ⟨rfl, rfl⟩ := ih later
      exact ⟨rfl, rfl⟩

theorem Blanks.of_not_white {c : Char} (dark : c ∉ [' ', '\n', '\r', '\t'])
    (blanks : Blanks (c :: s) rest) : c :: s = rest := by
  cases blanks with
  | done => rfl
  | blank white => exact absurd white dark

theorem Number.starts {c : Char} (number : Number (c :: s) rest) : c = '-' ∨ c.isDigit = true := by
  obtain ⟨sign, whole, -, -⟩ := number
  cases sign with
  | absent =>
    cases whole with
    | zero => exact .inr rfl
    | digits _ digits => cases digits with | last digit | more digit => exact .inr digit
  | present among => exact .inl (List.mem_singleton.mp among)

theorem reads_string_iff {v : JsonValue} : Reads ('"' :: s) (.value v) rest ↔
    ∃ chars, v = .string (String.ofList chars) ∧ StringRest s chars rest := by
  constructor
  · intro reads
    generalize opening : '"' :: s = text, of_value : Part.value v = part at reads
    cases reads with
    | string string =>
      cases of_value
      exact ⟨_, rfl, (List.cons.inj opening).2 ▸ string⟩
    | number number =>
      subst opening
      obtain is_minus | digit := number.starts
      · exact absurd is_minus (by decide)
      · exact absurd digit (by decide)
    | _ => simp at opening of_value
  · rintro ⟨chars, rfl, string⟩
    exact .string string

/-- A member of an object whose value is a string, and what follows. -/
def entry (name text rest : List Char) : List Char :=
  '"' :: (name ++ '"' :: ':' :: '"' :: (text ++ '"' :: rest))

section Entry

variable {name name_chars text chars : List Char}

/-- The two strings of a member are read for what they stand for. -/
theorem reads_entry_iff (is_name : Spells name name_chars) (is_text : Spells text chars) {c : Char}
    (dark : c ∉ [' ', '\n', '\r', '\t']) {ms : List (String × JsonValue)} :
    Reads (entry name text (c :: s)) (.members ms) rest ↔
      ∃ later, ms = (String.ofList name_chars, .string (String.ofList chars)) :: later ∧
        (later = [] ∧ c :: s = rest ∨ c = ',' ∧ Reads s (.members later) rest) := by
  constructor
  · intro reads
    have known {s₁ s₂ s₃ s₄ s₅ found : List Char} {v : JsonValue}
        (before : Blanks (entry name text (c :: s)) ('"' :: s₁)) (string : StringRest s₁ found s₂)
        (colon : Blanks s₂ (':' :: s₃)) (blanks : Blanks s₃ s₄) (value : Reads s₄ (.value v) s₅) :
        (String.ofList found, v) = (String.ofList name_chars, .string (String.ofList chars)) ∧
          c :: s = s₅ := by
      cases before.of_not_white (by decide)
      obtain ⟨rfl, rfl⟩ := string.unique (is_name _)
      cases colon.of_not_white (by decide)
      cases blanks.of_not_white (by decide)
      obtain ⟨found', rfl, string'⟩ := reads_string_iff.mp value
      obtain ⟨rfl, rfl⟩ := string'.unique (is_text _)
      exact ⟨rfl, rfl⟩
    cases reads with
    | member before string colon blanks value behind =>
      obtain ⟨same, rfl⟩ := known before string colon blanks value
      exact ⟨[], by rw [same], .inl ⟨rfl, behind.of_not_white dark⟩⟩
    | members before string colon blanks value behind later =>
      obtain ⟨same, rfl⟩ := known before string colon blanks value
      cases behind.of_not_white dark
      exact ⟨_, by rw [same], .inr ⟨rfl, later⟩⟩
  · have value : Reads ('"' :: (text ++ '"' :: c :: s))
        (.value (.string (String.ofList chars))) (c :: s) := .string (is_text _)
    rintro ⟨later, rfl, ⟨rfl, rfl⟩ | ⟨rfl, reads⟩⟩
    · exact .member .done (is_name _) .done .done value .done
    · exact .members .done (is_name _) .done .done value .done reads

/-- The scanner comes to the value of a member from inside of a string. -/
theorem scan_name (is_name : Spells name name_chars) :
    Place.outside.scan (entry name text s) = Place.inside.scan (text ++ '"' :: s) :=
  (is_name _).scanned

theorem scan_entry (is_name : Spells name name_chars) (is_text : Spells text chars) :
    Place.outside.scan (entry name text s) = Place.outside.scan s :=
  (scan_name is_name).trans (is_text s).scanned

/-- A member in front of a brace is the last one. -/
theorem reads_last_iff (is_name : Spells name name_chars) (is_text : Spells text chars)
    {ms : List (String × JsonValue)} :
    Reads (entry name text ('\x7d' :: s)) (.members ms) rest ↔
      ms = [(String.ofList name_chars, .string (String.ofList chars))] ∧ '\x7d' :: s = rest := by
  rw [reads_entry_iff is_name is_text (by decide)]
  constructor
  · rintro ⟨later, rfl, ⟨rfl, rfl⟩ | ⟨comma, -⟩⟩
    · exact ⟨rfl, rfl⟩
    · exact absurd comma (by decide)
  · rintro ⟨rfl, rfl⟩
    exact ⟨[], rfl, .inl ⟨rfl, rfl⟩⟩

/-- A member in front of a comma is followed by others. -/
theorem reads_more_iff (is_name : Spells name name_chars) (is_text : Spells text chars)
    {ms : List (String × JsonValue)} :
    Reads (entry name text (',' :: s)) (.members ms) ('\x7d' :: rest) ↔
      ∃ later, ms = (String.ofList name_chars, .string (String.ofList chars)) :: later ∧
        Reads s (.members later) ('\x7d' :: rest) := by
  rw [reads_entry_iff is_name is_text (by decide)]
  simp

/-- A text that opens with a member in braces is an object. -/
theorem isText_object_iff {v : JsonValue} : IsText ('\x7b' :: entry name text s) v ↔
    ∃ ms tail, v = .object ms ∧ Reads (entry name text s) (.members ms) ('\x7d' :: tail) ∧
      Blanks tail [] := by
  constructor
  · rintro ⟨before, value, behind⟩
    cases before.of_not_white (by decide)
    generalize opening : '\x7b' :: entry name text s = whole, of_value : Part.value v = part
      at value
    cases value with
    | emptyObject blanks =>
      cases opening
      cases blanks.of_not_white (by decide)
    | object members =>
      cases opening
      cases of_value
      exact ⟨_, _, rfl, members, behind⟩
    | number number =>
      subst opening
      obtain is_minus | digit := number.starts
      · exact absurd is_minus (by decide)
      · exact absurd digit (by decide)
    | _ => simp at opening of_value
  · rintro ⟨ms, tail, rfl, members, behind⟩
    exact ⟨.done, .object members, behind⟩

end Entry

end RawReel.JsonValue
