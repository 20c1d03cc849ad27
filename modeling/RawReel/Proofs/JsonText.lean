import RawReel.JsonValue
import RawReel.Proofs.Numerals

/-!
# The grammar of JSON texts

Each rule relates a text to what is left of it behind the part that the rule is
about.

* `StringRest`: the characters of a string behind its opening quote, with their
  escapes;
* `Reads`: values, the values of an array, and the members of an object;
* `IsText`: a text that is one value, with white space around it;
* `Place`: a scanner that tells strings from what stands outside of them;
* `IsText.scanned`: no JSON text stops the scanner.
-/

namespace RawReel.JsonValue

/-- White space between the parts of a text. -/
inductive Blanks : List Char → List Char → Prop
  | done {s : List Char} : Blanks s s
  | blank {c : Char} {s rest : List Char} (white : c ∈ [' ', '\n', '\r', '\t'])
      (later : Blanks s rest) : Blanks (c :: s) rest

/-- One of some characters, or none of them. -/
inductive Maybe (cs : List Char) : List Char → List Char → Prop
  | absent {s : List Char} : Maybe cs s s
  | present {c : Char} {s : List Char} (among : c ∈ cs) : Maybe cs (c :: s) s

inductive Digits : List Char → List Char → Prop
  | last {c : Char} {s : List Char} (digit : c.isDigit = true) : Digits (c :: s) s
  | more {c : Char} {s rest : List Char} (digit : c.isDigit = true) (later : Digits s rest) :
      Digits (c :: s) rest

/-- The digits in front of a point: a zero stands alone. -/
inductive Whole : List Char → List Char → Prop
  | zero {rest : List Char} : Whole ('0' :: rest) rest
  | digits {c : Char} {s rest : List Char} (no_zero : c ≠ '0') (digits : Digits (c :: s) rest) :
      Whole (c :: s) rest

inductive Fraction : List Char → List Char → Prop
  | absent {s : List Char} : Fraction s s
  | present {s rest : List Char} (digits : Digits s rest) : Fraction ('.' :: s) rest

inductive Exponent : List Char → List Char → Prop
  | absent {s : List Char} : Exponent s s
  | present {e : Char} {s s' rest : List Char} (letter : e ∈ ['e', 'E'])
      (sign : Maybe ['+', '-'] s s') (digits : Digits s' rest) : Exponent (e :: s) rest

inductive Number : List Char → List Char → Prop
  | parts {s s₁ s₂ s₃ rest : List Char} (sign : Maybe ['-'] s s₁) (whole : Whole s₁ s₂)
      (fraction : Fraction s₂ s₃) (exponent : Exponent s₃ rest) : Number s rest

/-- Four hexadecimal digits, and the number they stand for. -/
inductive Hex4 : List Char → Nat → List Char → Prop
  | digits {a b c d : Char} {m n o p : Nat} {rest : List Char} (first : Text.hexDigit? a = some m)
      (second : Text.hexDigit? b = some n) (third : Text.hexDigit? c = some o)
      (fourth : Text.hexDigit? d = some p) :
      Hex4 (a :: b :: c :: d :: rest) (16 * (16 * (16 * m + n) + o) + p) rest

/-- Characters with an escape of their own, by the letter that names them. -/
def named : List (Char × Char) :=
  [('"', '"'), ('\\', '\\'), ('/', '/'), ('b', '\x08'), ('f', '\x0c'), ('n', '\n'),
    ('r', '\r'), ('t', '\t')]

/-- What follows a backslash, and the character that it stands for. -/
inductive Escape : List Char → Char → List Char → Prop
  | named {e c : Char} {rest : List Char} (among : (e, c) ∈ named) : Escape (e :: rest) c rest
  | code {s rest : List Char} {n : Nat} (digits : Hex4 s n rest)
      (no_half : ¬(0xD800 ≤ n ∧ n ≤ 0xDFFF)) : Escape ('u' :: s) (Char.ofNat n) rest
  | pair {s s' rest : List Char} {high low : Nat} (first : Hex4 s high ('\\' :: 'u' :: s'))
      (second : Hex4 s' low rest) (is_high : 0xD800 ≤ high ∧ high ≤ 0xDBFF)
      (is_low : 0xDC00 ≤ low ∧ low ≤ 0xDFFF) :
      Escape ('u' :: s) (Char.ofNat (0x10000 + (high - 0xD800) * 0x400 + (low - 0xDC00))) rest

/-- The rest of a string behind its opening quote, and its characters. -/
inductive StringRest : List Char → List Char → List Char → Prop
  | close {rest : List Char} : StringRest ('"' :: rest) [] rest
  | plain {c : Char} {s chars rest : List Char} (shows : 0x20 ≤ c.toNat) (no_quote : c ≠ '"')
      (no_backslash : c ≠ '\\') (later : StringRest s chars rest) :
      StringRest (c :: s) (c :: chars) rest
  | escape {c : Char} {s s' chars rest : List Char} (escape : Escape s c s')
      (later : StringRest s' chars rest) : StringRest ('\\' :: s) (c :: chars) rest

/-- What a rule about values can be about: one value, the values of an array, or the
members of an object. -/
inductive Part
  | value (v : JsonValue)
  | items (vs : List JsonValue)
  | members (ms : List (String × JsonValue))

inductive Reads : List Char → Part → List Char → Prop
  | null {rest : List Char} : Reads ('n' :: 'u' :: 'l' :: 'l' :: rest) (.value .null) rest
  | true {rest : List Char} : Reads ('t' :: 'r' :: 'u' :: 'e' :: rest) (.value (.bool true)) rest
  | false {rest : List Char} :
      Reads ('f' :: 'a' :: 'l' :: 's' :: 'e' :: rest) (.value (.bool false)) rest
  | number {s rest : List Char} (number : Number s rest) : Reads s (.value .number) rest
  | string {s chars rest : List Char} (string : StringRest s chars rest) :
      Reads ('"' :: s) (.value (.string (String.ofList chars))) rest
  | emptyArray {s rest : List Char} (blanks : Blanks s (']' :: rest)) :
      Reads ('[' :: s) (.value (.array [])) rest
  | array {s rest : List Char} {vs : List JsonValue} (items : Reads s (.items vs) (']' :: rest)) :
      Reads ('[' :: s) (.value (.array vs)) rest
  | emptyObject {s rest : List Char} (blanks : Blanks s ('\x7d' :: rest)) :
      Reads ('\x7b' :: s) (.value (.object [])) rest
  | object {s rest : List Char} {ms : List (String × JsonValue)}
      (members : Reads s (.members ms) ('\x7d' :: rest)) :
      Reads ('\x7b' :: s) (.value (.object ms)) rest
  | item {s s₁ s₂ rest : List Char} {v : JsonValue} (before : Blanks s s₁)
      (value : Reads s₁ (.value v) s₂) (behind : Blanks s₂ rest) : Reads s (.items [v]) rest
  | items {s s₁ s₂ s₃ rest : List Char} {v : JsonValue} {vs : List JsonValue}
      (before : Blanks s s₁) (value : Reads s₁ (.value v) s₂) (behind : Blanks s₂ (',' :: s₃))
      (later : Reads s₃ (.items vs) rest) : Reads s (.items (v :: vs)) rest
  | member {s s₁ s₂ s₃ s₄ s₅ rest chars : List Char} {v : JsonValue}
      (before : Blanks s ('"' :: s₁)) (name : StringRest s₁ chars s₂)
      (colon : Blanks s₂ (':' :: s₃)) (blanks : Blanks s₃ s₄) (value : Reads s₄ (.value v) s₅)
      (behind : Blanks s₅ rest) : Reads s (.members [(String.ofList chars, v)]) rest
  | members {s s₁ s₂ s₃ s₄ s₅ s₆ rest chars : List Char} {v : JsonValue}
      {ms : List (String × JsonValue)} (before : Blanks s ('"' :: s₁))
      (name : StringRest s₁ chars s₂) (colon : Blanks s₂ (':' :: s₃)) (blanks : Blanks s₃ s₄)
      (value : Reads s₄ (.value v) s₅) (behind : Blanks s₅ (',' :: s₆))
      (later : Reads s₆ (.members ms) rest) :
      Reads s (.members ((String.ofList chars, v) :: ms)) rest

/-- One value with white space around it, and nothing else. -/
inductive IsText (text : List Char) (v : JsonValue) : Prop
  | value {s s' : List Char} (before : Blanks text s) (value : Reads s (.value v) s')
      (behind : Blanks s' [])

/-- Where a scanner stands that only looks for strings and escapes. -/
inductive Place
  | outside
  | inside
  | escaped
  | hex (left : Nat)

namespace Place

/-- Everything outside of strings is made of these, quotes apart. -/
def outer : List Char :=
  ['\x7b', '\x7d', '[', ']', ':', ',', ' ', '\n', '\r', '\t', '+', '-', '.', '0', '1', '2', '3',
    '4', '5', '6', '7', '8', '9', 'e', 'E', 't', 'r', 'u', 'f', 'a', 'l', 's', 'n']

/-- The place behind a character; nothing if it cannot stand there. -/
def next : Place → Char → Option Place
  | outside, c =>
    if c = '"' then some inside else if c ∈ outer then some outside else none
  | inside, c =>
    if c = '"' then some outside
    else if c = '\\' then some escaped
    else if c.toNat < 0x20 then none else some inside
  | escaped, c =>
    if c = 'u' then some (hex 3) else if c ∈ named.map Prod.fst then some inside else none
  | hex left, c =>
    if (Text.hexDigit? c).isSome then
      some (match left with
        | 0 => inside
        | left + 1 => hex left)
    else none

/-- The place behind a text. -/
def scan (place : Place) (text : List Char) : Option Place := text.foldlM next place

theorem scan_nil (place : Place) : place.scan [] = some place := rfl

theorem scan_cons (place : Place) (c : Char) (text : List Char) :
    place.scan (c :: text) = (place.next c).bind (scan · text) := rfl

theorem scan_append (place : Place) (text later : List Char) :
    place.scan (text ++ later) = (place.scan text).bind (scan · later) :=
  List.foldlM_append

/-- A character that may stand outside of strings is passed over. -/
theorem scan_outer {c : Char} (among : c ∈ outer) (s : List Char) :
    outside.scan (c :: s) = outside.scan s := by
  have no_quote : c ≠ '"' := by
    rintro rfl
    revert among
    decide
  rw [scan_cons, next, if_neg no_quote, if_pos among, Option.bind_some]

theorem digit_outer {c : Char} (digit : c.isDigit = true) : c ∈ outer := by
  obtain ⟨n, small, rfl⟩ := Text.exists_digitChar digit
  interval_cases n <;> simp [outer, Nat.digitChar]

theorem scan_named {e c : Char} (among : (e, c) ∈ named) (s : List Char) :
    escaped.scan (e :: s) = inside.scan s := by
  have no_unit : e ≠ 'u' := by
    rintro rfl
    have none_named : ∀ entry ∈ named, entry.1 ≠ 'u' := by decide
    exact none_named _ among rfl
  rw [scan_cons, next, if_neg no_unit, if_pos (List.mem_map_of_mem among), Option.bind_some]

theorem scan_plain {c : Char} (shows : 0x20 ≤ c.toNat) (no_quote : c ≠ '"')
    (no_backslash : c ≠ '\\') (s : List Char) : inside.scan (c :: s) = inside.scan s := by
  rw [scan_cons, next, if_neg no_quote, if_neg no_backslash, if_neg (Nat.not_lt.mpr shows),
    Option.bind_some]

end Place

open Place

/-! What the rules pass over, the scanner passes over as well. -/

variable {s rest : List Char}

theorem Blanks.scanned (blanks : Blanks s rest) : outside.scan s = outside.scan rest := by
  induction blanks with
  | done => rfl
  | blank white _ ih =>
    have all : ∀ c ∈ [' ', '\n', '\r', '\t'], c ∈ outer := by simp [outer]
    rw [scan_outer (all _ white), ih]

theorem Maybe.scanned {cs : List Char} (outer : ∀ c ∈ cs, c ∈ outer) (maybe : Maybe cs s rest) :
    outside.scan s = outside.scan rest := by
  cases maybe with
  | absent => rfl
  | present among => exact scan_outer (outer _ among) rest

theorem Digits.scanned (digits : Digits s rest) : outside.scan s = outside.scan rest := by
  induction digits with
  | last digit => exact scan_outer (digit_outer digit) _
  | more digit _ ih => rw [scan_outer (digit_outer digit), ih]

theorem Whole.scanned (whole : Whole s rest) : outside.scan s = outside.scan rest := by
  cases whole with
  | zero => exact scan_outer (by decide) rest
  | digits _ digits => exact digits.scanned

theorem Fraction.scanned (fraction : Fraction s rest) : outside.scan s = outside.scan rest := by
  cases fraction with
  | absent => rfl
  | present digits => rw [scan_outer (by decide), digits.scanned]

theorem Exponent.scanned (exponent : Exponent s rest) : outside.scan s = outside.scan rest := by
  cases exponent with
  | absent => rfl
  | present letter sign digits =>
    have letters : ∀ e ∈ ['e', 'E'], e ∈ outer := by simp [outer]
    rw [scan_outer (letters _ letter), sign.scanned (by simp [outer]), digits.scanned]

theorem Number.scanned (number : Number s rest) : outside.scan s = outside.scan rest := by
  obtain ⟨sign, whole, fraction, exponent⟩ := number
  rw [sign.scanned (by simp [outer]), whole.scanned, fraction.scanned, exponent.scanned]

theorem Hex4.scanned {n : Nat} (digits : Hex4 s n rest) : (hex 3).scan s = inside.scan rest := by
  obtain ⟨first, second, third, fourth⟩ := digits
  simp only [scan_cons, Place.next, first, second, third, fourth, Option.isSome_some, if_true,
    Option.bind_some]

theorem Escape.scanned {c : Char} (escape : Escape s c rest) :
    escaped.scan s = inside.scan rest := by
  cases escape with
  | named among => exact scan_named among rest
  | code digits => exact digits.scanned
  | pair first second => exact first.scanned.trans second.scanned

theorem StringRest.scanned {chars : List Char} (string : StringRest s chars rest) :
    inside.scan s = outside.scan rest := by
  induction string with
  | close => rfl
  | plain shows no_quote no_backslash _ ih => rw [scan_plain shows no_quote no_backslash, ih]
  | escape escape _ ih => exact escape.scanned.trans ih

/-- A value, or a part of one, is passed over from outside of strings to outside of strings. -/
theorem Reads.scanned {part : Part} (reads : Reads s part rest) :
    outside.scan s = outside.scan rest := by
  induction reads with
  | null | true => rw [scan_outer, scan_outer, scan_outer, scan_outer] <;> decide
  | false => rw [scan_outer, scan_outer, scan_outer, scan_outer, scan_outer] <;> decide
  | number number => exact number.scanned
  | string string => exact string.scanned
  | emptyArray blanks | emptyObject blanks =>
    rw [scan_outer (by decide), blanks.scanned, scan_outer (by decide)]
  | array _ ih | object _ ih => rw [scan_outer (by decide), ih, scan_outer (by decide)]
  | item before _ behind ih => rw [before.scanned, ih, behind.scanned]
  | items before _ behind _ ih later =>
    rw [before.scanned, ih, behind.scanned, scan_outer (by decide), later]
  | member before name colon blanks _ behind ih =>
    rw [before.scanned]
    exact name.scanned.trans (by
      rw [colon.scanned, scan_outer (by decide), blanks.scanned, ih, behind.scanned])
  | members before name colon blanks _ behind _ ih later =>
    rw [before.scanned]
    exact name.scanned.trans (by
      rw [colon.scanned, scan_outer (by decide), blanks.scanned, ih, behind.scanned,
        scan_outer (by decide), later])

/-- No JSON text stops the scanner. -/
theorem IsText.scanned {text : List Char} {v : JsonValue} (is_text : IsText text v) :
    outside.scan text = some outside := by
  obtain ⟨before, value, behind⟩ := is_text
  rw [before.scanned, value.scanned, behind.scanned, scan_nil]

end RawReel.JsonValue
