import RawReel.JsonValue.Parse
import RawReel.Proofs.JsonText

/-!
# What the strict reading of JSON texts takes

First the parts without values in them: white space, words, strings with their escapes,
and numbers. Then the three readers of values, which call each other with one unit of
fuel less (`Sound`).

* `isText_of_parse?`: a text that is read is a JSON text, and has the value that was
  read.
-/

namespace RawReel.JsonValue

variable {α β : Type} {s rest : List Char}

/-- A sequence of two readings goes through just if both do. -/
theorem bind_eq_some_iff {p : Parser α} {f : α → Parser β} {y : β} :
    (p >>= f) s = some (y, rest) ↔ ∃ x s', p s = some (x, s') ∧ f x s' = some (y, rest) := by
  show (p s).bind (fun r => f r.1 r.2) = _ ↔ _
  rw [Option.bind_eq_some_iff]
  simp

theorem pure_eq_some_iff {x y : α} :
    (pure x : Parser α) s = some (y, rest) ↔ x = y ∧ s = rest := by
  show some (x, s) = _ ↔ _
  simp

theorem failure_ne_some {y : α} : (failure : Parser α) s ≠ some (y, rest) := by
  intro h
  cases h

theorem peek_eq_some_iff {o : Option Char} : peek s = some (o, rest) ↔ s.head? = o ∧ s = rest := by
  show some (s.head?, s) = _ ↔ _
  simp

theorem next_eq_some_iff {c : Char} : next s = some (c, rest) ↔ s = c :: rest := by
  cases s <;> simp [next]

theorem next_of_head {c d : Char} (head : s.head? = some c) (read : next s = some (d, rest)) :
    s = c :: rest := by
  cases next_eq_some_iff.mp read
  cases head
  rfl

theorem expect_sound {word : List Char} {u : Unit} (read : expect word s = some (u, rest)) :
    s = word ++ rest := by
  unfold expect at read
  split at read
  case isTrue starts =>
    obtain ⟨later, rfl⟩ := List.isPrefixOf_iff_prefix.mp starts
    simp at read
    rw [read]
  case isFalse => cases read

theorem word_sound {word : List Char} {x y : α}
    (read : (do expect word; return x : Parser α) s = some (y, rest)) :
    s = word ++ rest ∧ x = y := by
  obtain ⟨_, _, word, read⟩ := bind_eq_some_iff.mp read
  obtain ⟨rfl, rfl⟩ := pure_eq_some_iff.mp read
  exact ⟨expect_sound word, rfl⟩

theorem skipBlanks_sound {u : Unit} (read : skipBlanks s = some (u, rest)) : Blanks s rest := by
  have same : s.dropWhile (fun c => c == ' ' || c == '\n' || c == '\r' || c == '\t') = rest := by
    cases read
    rfl
  subst same
  clear read
  induction s with
  | nil => exact .done
  | cons c s ih =>
    rw [List.dropWhile_cons]
    split
    · next white => exact .blank (by simpa [or_assoc] using white) ih
    · exact .done

theorem accept_sound {c : Char} {b : Bool} (read : accept c s = some (b, rest)) :
    if b then s = c :: rest else s = rest ∧ s.head? ≠ some c := by
  unfold accept at read
  simp only [bind_eq_some_iff, peek_eq_some_iff] at read
  obtain ⟨_, _, ⟨rfl, rfl⟩, read⟩ := read
  split at read
  case isTrue found =>
    simp only [bind_eq_some_iff, next_eq_some_iff, pure_eq_some_iff] at read
    obtain ⟨d, _, rfl, rfl, rfl⟩ := read
    simpa using found
  case isFalse other =>
    obtain ⟨rfl, rfl⟩ := pure_eq_some_iff.mp read
    exact ⟨rfl, other⟩

theorem acceptOneOf_sound {cs : List Char} {b : Bool} (read : acceptOneOf cs s = some (b, rest)) :
    if b then ∃ c ∈ cs, s = c :: rest else s = rest := by
  unfold acceptOneOf at read
  simp only [bind_eq_some_iff, peek_eq_some_iff] at read
  obtain ⟨_, _, ⟨rfl, rfl⟩, read⟩ := read
  split at read
  case isTrue found =>
    simp only [bind_eq_some_iff, next_eq_some_iff, pure_eq_some_iff] at read
    obtain ⟨d, _, rfl, rfl, rfl⟩ := read
    exact ⟨d, by simpa using found, rfl⟩
  case isFalse =>
    obtain ⟨rfl, rfl⟩ := pure_eq_some_iff.mp read
    rfl

theorem lift_eq_some_iff {o : Option α} {x : α} :
    (liftM o : Parser α) s = some (x, rest) ↔ o = some x ∧ s = rest := by
  show (o.bind fun x => some (x, s)) = _ ↔ _
  rw [Option.bind_eq_some_iff]
  simp

theorem unit_sound {n : Nat} (read : unit s = some (n, rest)) : Hex4 s n rest := by
  unfold unit at read
  simp only [List.forIn_cons, List.forIn_nil, bind_assoc, pure_bind, bind_eq_some_iff,
    next_eq_some_iff, lift_eq_some_iff, pure_eq_some_iff] at read
  obtain ⟨a, _, rfl, m, _, ⟨first, rfl⟩, b, _, rfl, n', _, ⟨second, rfl⟩, c, _, rfl, o, _,
    ⟨third, rfl⟩, d, _, rfl, p, _, ⟨fourth, rfl⟩, rfl, rfl⟩ := read
  rw [Nat.mul_zero, Nat.zero_add]
  exact .digits first second third fourth

theorem unicodeEscape_sound {c : Char} (read : unicodeEscape s = some (c, rest)) :
    Escape ('u' :: s) c rest := by
  unfold unicodeEscape at read
  obtain ⟨first, s₁, first_read, read⟩ := bind_eq_some_iff.mp read
  split at read
  case isTrue is_high =>
    simp only [bind_eq_some_iff] at read
    obtain ⟨_, s₂, mark, second, s₃, second_read, read⟩ := read
    split at read
    case isTrue is_low =>
      obtain ⟨rfl, rfl⟩ := pure_eq_some_iff.mp read
      have first_digits := unit_sound first_read
      rw [expect_sound mark] at first_digits
      exact .pair first_digits (unit_sound second_read) is_high is_low
    case isFalse => exact absurd read failure_ne_some
  case isFalse not_high =>
    split at read
    case isTrue => exact absurd read failure_ne_some
    case isFalse not_low =>
      obtain ⟨rfl, rfl⟩ := pure_eq_some_iff.mp read
      exact .code (unit_sound first_read) (by omega)

theorem escape_sound {c : Char} (read : escape s = some (c, rest)) : Escape s c rest := by
  unfold escape at read
  obtain ⟨e, s₁, first, read⟩ := bind_eq_some_iff.mp read
  rw [next_eq_some_iff.mp first]
  split at read
  case h_9 => exact unicodeEscape_sound read
  case h_10 => exact absurd read failure_ne_some
  all_goals
    obtain ⟨rfl, rfl⟩ := pure_eq_some_iff.mp read
    exact .named (by decide)

theorem stringRest_sound {fuel : Nat} {back : List Char} {text : String}
    (read : stringRest fuel back s = some (text, rest)) :
    ∃ chars, text = String.ofList (back.reverse ++ chars) ∧ StringRest s chars rest := by
  induction fuel generalizing back s with
  | zero => exact absurd read failure_ne_some
  | succ fuel ih =>
    unfold stringRest at read
    obtain ⟨c, s₁, first, read⟩ := bind_eq_some_iff.mp read
    rw [next_eq_some_iff.mp first]
    split at read
    case h_1 =>
      obtain ⟨rfl, rfl⟩ := pure_eq_some_iff.mp read
      exact ⟨[], by rw [List.append_nil], .close⟩
    case h_2 =>
      obtain ⟨d, s₂, escape, read⟩ := bind_eq_some_iff.mp read
      obtain ⟨chars, rfl, later⟩ := ih read
      exact ⟨d :: chars, by simp, .escape (escape_sound escape) later⟩
    case h_3 no_quote no_backslash =>
      split at read
      case isTrue => exact absurd read failure_ne_some
      case isFalse shows =>
        obtain ⟨chars, rfl, later⟩ := ih read
        exact ⟨c :: chars, by simp, .plain (Nat.le_of_not_lt shows) no_quote no_backslash later⟩

theorem Maybe.of_accept {c : Char} {cs : List Char} (among : c ∈ cs) {b : Bool}
    (read : accept c s = some (b, rest)) : Maybe cs s rest := by
  have start := accept_sound read
  split at start
  · exact start ▸ .present among
  · exact start.1 ▸ .absent

theorem digits_of_takeWhile (some_digit : s.takeWhile Char.isDigit ≠ []) :
    Digits s (s.drop (s.takeWhile Char.isDigit).length) := by
  induction s with
  | nil => exact absurd rfl some_digit
  | cons c s ih =>
    rw [List.takeWhile_cons] at some_digit ⊢
    split at some_digit
    case isFalse => exact absurd rfl some_digit
    case isTrue digit =>
      rw [if_pos digit, List.length_cons, List.drop_succ_cons]
      by_cases last : s.takeWhile Char.isDigit = []
      · rw [last]
        exact .last digit
      · exact .more digit (ih last)

theorem digits1_sound {found : List Char} (read : digits1 s = some (found, rest)) :
    Digits s rest := by
  unfold digits1 at read
  obtain ⟨run, s₁, run_read, read⟩ := bind_eq_some_iff.mp read
  cases run_read
  split at read
  case isTrue => exact absurd read failure_ne_some
  case isFalse some_digit =>
    obtain ⟨-, rfl⟩ := pure_eq_some_iff.mp read
    exact digits_of_takeWhile fun none => some_digit (List.isEmpty_iff.mpr none)

theorem wholeDigits_sound {found : List Char} (read : wholeDigits s = some (found, rest)) :
    Whole s rest := by
  unfold wholeDigits at read
  obtain ⟨zero, s₁, accepted, read⟩ := bind_eq_some_iff.mp read
  have start := accept_sound accepted
  split at read
  case isTrue found_zero =>
    obtain ⟨-, rfl⟩ := pure_eq_some_iff.mp read
    rw [if_pos found_zero] at start
    exact start ▸ .zero
  case isFalse no_zero =>
    rw [if_neg no_zero] at start
    obtain ⟨rfl, other⟩ := start
    have digits := digits1_sound read
    cases s with
    | nil => cases digits
    | cons c s => exact .digits (fun zero => other (congrArg some zero)) digits

theorem fractionDigits_sound {found : List Char} (read : fractionDigits s = some (found, rest)) :
    Fraction s rest := by
  unfold fractionDigits at read
  obtain ⟨point, s₁, accepted, read⟩ := bind_eq_some_iff.mp read
  have start := accept_sound accepted
  split at read
  case isTrue has_point =>
    rw [if_pos has_point] at start
    exact start ▸ .present (digits1_sound read)
  case isFalse no_point =>
    obtain ⟨-, rfl⟩ := pure_eq_some_iff.mp read
    rw [if_neg no_point] at start
    exact start.1 ▸ .absent

theorem exponent_sound {e : Int} (read : exponent s = some (e, rest)) : Exponent s rest := by
  unfold exponent at read
  obtain ⟨letter, s₁, accepted, read⟩ := bind_eq_some_iff.mp read
  have start := acceptOneOf_sound accepted
  split at read
  case isTrue has_letter =>
    rw [if_pos has_letter] at start
    obtain ⟨c, among, opening⟩ := start
    rw [opening]
    obtain ⟨negative, s₂, minus, read⟩ := bind_eq_some_iff.mp read
    cases negative with
    | true =>
      obtain ⟨found, s₃, digits, read⟩ := bind_eq_some_iff.mp read
      obtain ⟨-, rfl⟩ := pure_eq_some_iff.mp read
      exact .present among (.of_accept (by decide) minus) (digits1_sound digits)
    | false =>
      have start := accept_sound minus
      rw [if_neg Bool.false_ne_true] at start
      obtain ⟨rfl, -⟩ := start
      simp only [Bool.not_false, if_true] at read
      obtain ⟨plus, s₃, plus_read, read⟩ := bind_eq_some_iff.mp read
      obtain ⟨found, s₄, digits, read⟩ := bind_eq_some_iff.mp read
      obtain ⟨-, rfl⟩ := pure_eq_some_iff.mp read
      exact .present among (.of_accept (by decide) plus_read) (digits1_sound digits)
  case isFalse no_letter =>
    obtain ⟨-, rfl⟩ := pure_eq_some_iff.mp read
    rw [if_neg no_letter] at start
    exact start ▸ .absent

theorem numberRest_sound {v : JsonValue} (read : numberRest s = some (v, rest)) :
    v = .number ∧ Number s rest := by
  unfold numberRest at read
  simp only [bind_eq_some_iff] at read
  obtain ⟨minus, s₁, accepted, whole, s₂, whole_read, fraction, s₃, fraction_read, e, s₄, e_read,
    read⟩ := read
  split at read
  case isTrue =>
    obtain ⟨rfl, rfl⟩ := pure_eq_some_iff.mp read
    exact ⟨rfl, .parts (.of_accept (by decide) accepted) (wholeDigits_sound whole_read)
      (fractionDigits_sound fraction_read) (exponent_sound e_read)⟩
  case isFalse => exact absurd read failure_ne_some

theorem Blanks.trans {middle : List Char} (blanks : Blanks s middle) (later : Blanks middle rest) :
    Blanks s rest := by
  induction blanks with
  | done => exact later
  | blank white _ ih => exact .blank white (ih later)

/-- White space in front of values or members is read with the first of them. -/
theorem Reads.after_blanks {part : Part} {middle : List Char} (blanks : Blanks s middle)
    (reads : Reads middle part rest) (no_value : ∀ v, part ≠ .value v) : Reads s part rest := by
  cases reads with
  | item before value behind => exact .item (blanks.trans before) value behind
  | items before value behind later => exact .items (blanks.trans before) value behind later
  | member before name colon between value behind =>
    exact .member (blanks.trans before) name colon between value behind
  | members before name colon between value behind later =>
    exact .members (blanks.trans before) name colon between value behind later
  | _ => exact absurd rfl (no_value _)

/-- What stands behind an opening bracket or brace: the closing one, or what `p` reads. -/
theorem inner_sound {p : Parser α} {close : Char} {empty v : JsonValue} {whole : α → JsonValue}
    (read : (do
      skipBlanks
      if ← accept close then return empty
      return whole (← p) : Parser JsonValue) s = some (v, rest)) :
    Blanks s (close :: rest) ∧ v = empty ∨
      ∃ x start, Blanks s start ∧ p start = some (x, rest) ∧ v = whole x := by
  obtain ⟨_, start, blanks, read⟩ := bind_eq_some_iff.mp read
  have before := skipBlanks_sound blanks
  obtain ⟨closed, s₁, accepted, read⟩ := bind_eq_some_iff.mp read
  have closing := accept_sound accepted
  split at read
  case isTrue ends =>
    obtain ⟨rfl, rfl⟩ := pure_eq_some_iff.mp read
    rw [if_pos ends] at closing
    exact .inl ⟨closing ▸ before, rfl⟩
  case isFalse goes_on =>
    rw [if_neg goes_on] at closing
    obtain ⟨rfl, -⟩ := closing
    obtain ⟨x, _, inner, read⟩ := bind_eq_some_iff.mp read
    obtain ⟨rfl, rfl⟩ := pure_eq_some_iff.mp read
    exact .inr ⟨x, start, before, inner, rfl⟩

/-- What stands behind an entry of an array or object: a comma and what `p` reads, or
the closing bracket or brace. -/
theorem tail_sound {p : Parser (List α)} {close : Char} {first : α} {entries : List α}
    (read : (do
      skipBlanks
      if ← accept ',' then return first :: (← p)
      expect [close]
      return [first] : Parser (List α)) s = some (entries, rest)) :
    (∃ start later, Blanks s (',' :: start) ∧ p start = some (later, rest) ∧
      entries = first :: later) ∨
      Blanks s (close :: rest) ∧ entries = [first] := by
  obtain ⟨_, start, blanks, read⟩ := bind_eq_some_iff.mp read
  have behind := skipBlanks_sound blanks
  obtain ⟨comma, s₁, accepted, read⟩ := bind_eq_some_iff.mp read
  have comma_read := accept_sound accepted
  split at read
  case isTrue more =>
    rw [if_pos more] at comma_read
    obtain ⟨later, _, inner, read⟩ := bind_eq_some_iff.mp read
    obtain ⟨rfl, rfl⟩ := pure_eq_some_iff.mp read
    exact .inl ⟨s₁, later, comma_read ▸ behind, inner, rfl⟩
  case isFalse last =>
    rw [if_neg last] at comma_read
    obtain ⟨rfl, -⟩ := comma_read
    obtain ⟨closed, rfl⟩ := word_sound read
    rw [closed] at behind
    exact .inr ⟨behind, rfl⟩

/-- What the three readers of values take, with the same fuel. -/
structure Sound (fuel : Nat) : Prop where
  value : ∀ {depth s rest v}, value fuel depth s = some (v, rest) →
    ∃ start, Blanks s start ∧ Reads start (.value v) rest
  elements : ∀ {depth s rest vs}, elements fuel depth s = some (vs, rest) →
    Reads s (.items vs) (']' :: rest)
  members : ∀ {depth s rest ms}, members fuel depth s = some (ms, rest) →
    Reads s (.members ms) ('\x7d' :: rest)

theorem elements_step {fuel depth : Nat} (sound : Sound fuel) {vs : List JsonValue}
    (read : elements (fuel + 1) depth s = some (vs, rest)) : Reads s (.items vs) (']' :: rest) := by
  unfold elements at read
  obtain ⟨first, s₁, first_read, read⟩ := bind_eq_some_iff.mp read
  obtain ⟨start, before, value⟩ := sound.value first_read
  obtain ⟨s₂, later, behind, later_read, rfl⟩ | ⟨behind, rfl⟩ := tail_sound read
  · exact .items before value behind (sound.elements later_read)
  · exact .item before value behind

theorem members_step {fuel depth : Nat} (sound : Sound fuel) {ms : List (String × JsonValue)}
    (read : members (fuel + 1) depth s = some (ms, rest)) :
    Reads s (.members ms) ('\x7d' :: rest) := by
  unfold members at read
  obtain ⟨_, s₁, front, read⟩ := bind_eq_some_iff.mp read
  obtain ⟨_, s₂, quote, read⟩ := bind_eq_some_iff.mp read
  have before := skipBlanks_sound front
  rw [expect_sound quote] at before
  obtain ⟨name, s₃, name_read, read⟩ := bind_eq_some_iff.mp read
  obtain ⟨chars, rfl, string⟩ := stringRest_sound name_read
  obtain ⟨_, s₄, between, read⟩ := bind_eq_some_iff.mp read
  obtain ⟨_, s₅, colon, read⟩ := bind_eq_some_iff.mp read
  have behind_name := skipBlanks_sound between
  rw [expect_sound colon] at behind_name
  obtain ⟨first, s₆, first_read, read⟩ := bind_eq_some_iff.mp read
  obtain ⟨start, blanks, value⟩ := sound.value first_read
  obtain ⟨s₇, later, behind, later_read, rfl⟩ | ⟨behind, rfl⟩ := tail_sound read
  · exact .members before string behind_name blanks value behind (sound.members later_read)
  · exact .member before string behind_name blanks value behind

theorem value_step {fuel depth : Nat} (sound : Sound fuel) {v : JsonValue}
    (read : JsonValue.value (fuel + 1) depth s = some (v, rest)) :
    ∃ start, Blanks s start ∧ Reads start (.value v) rest := by
  unfold JsonValue.value at read
  obtain ⟨_, start, blanks, read⟩ := bind_eq_some_iff.mp read
  refine ⟨start, skipBlanks_sound blanks, ?_⟩
  obtain ⟨o, _, peeked, read⟩ := bind_eq_some_iff.mp read
  obtain ⟨head, rfl⟩ := peek_eq_some_iff.mp peeked
  -- One case for each character that a value can start with; anything else has to be a number.
  split at read
  case h_1 =>
    obtain ⟨rfl, rfl⟩ := word_sound read
    exact .null
  case h_2 =>
    obtain ⟨rfl, rfl⟩ := word_sound read
    exact .true
  case h_3 =>
    obtain ⟨rfl, rfl⟩ := word_sound read
    exact .false
  case h_4 =>
    obtain ⟨_, s₁, quote, read⟩ := bind_eq_some_iff.mp read
    obtain ⟨text, _, text_read, read⟩ := bind_eq_some_iff.mp read
    obtain ⟨rfl, rfl⟩ := pure_eq_some_iff.mp read
    obtain ⟨chars, rfl, string⟩ := stringRest_sound text_read
    exact next_of_head head quote ▸ .string string
  case h_5 =>
    obtain ⟨_, s₁, bracket, read⟩ := bind_eq_some_iff.mp read
    rw [next_of_head head bracket]
    split at read
    case isTrue => simp [failure_ne_some] at read
    case isFalse =>
      obtain ⟨blanks, rfl⟩ | ⟨vs, s₂, blanks, items, rfl⟩ := inner_sound read
      · exact .emptyArray blanks
      · exact .array ((sound.elements items).after_blanks blanks fun _ same => by cases same)
  case h_6 =>
    obtain ⟨_, s₁, brace, read⟩ := bind_eq_some_iff.mp read
    rw [next_of_head head brace]
    split at read
    case isTrue => simp [failure_ne_some] at read
    case isFalse =>
      obtain ⟨blanks, rfl⟩ | ⟨ms, s₂, blanks, members, rfl⟩ := inner_sound read
      · exact .emptyObject blanks
      · exact .object ((sound.members members).after_blanks blanks fun _ same => by cases same)
  case h_7 =>
    obtain ⟨rfl, number⟩ := numberRest_sound read
    exact .number number

theorem readers_sound (fuel : Nat) : Sound fuel := by
  induction fuel with
  | zero =>
    constructor <;> intro _ _ _ _ read <;> exact absurd read failure_ne_some
  | succ fuel ih => exact ⟨value_step ih, elements_step ih, members_step ih⟩

/-- Whatever the strict reading takes is a JSON text, and has the value that was read. -/
theorem isText_of_parse? {text : String} {v : JsonValue} (read : parse? text = some v) :
    IsText text.toList v := by
  unfold parse? at read
  simp only at read
  split at read
  case h_1 v' whole =>
    cases read
    simp only [bind_eq_some_iff, pure_eq_some_iff] at whole
    obtain ⟨_, s₁, value, _, s₂, blanks, rfl, rfl⟩ := whole
    obtain ⟨start, before, reads⟩ := (readers_sound _).value value
    exact ⟨before, reads, skipBlanks_sound blanks⟩
  case h_2 => cases read

end RawReel.JsonValue
