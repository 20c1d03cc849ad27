import RawReel.LogLine
import RawReel.Diagnostic
import RawReel.Proofs.JsonReading
import RawReel.Proofs.JsonStrings

/-!
# Reports as JSON texts

A report's line is put together from four pieces: the time stands bare, the level and
the target stand between quotes as they are, and the message is quoted with escapes.

* `Kept`: the characters whose escapes JSON has as well;
* `encode_isText_iff`: a quoted message is a JSON string just if all of its characters
  are kept, and then it stands for the message;
* `Timestamp`: times as RFC 3339 writes them;
* `json_bare`, `parse?_json`: a line is no JSON text, and the strict reading refuses it;
* `json_needs_quoted_time`: with the time between quotes, it is one just if all
  characters of the message are kept.
-/

namespace RawReel.LogLine

open JsonValue JsonValue.Place

/-! ## Messages -/

/-- A character that shows by itself, or has an escape that JSON has too. The others are
escaped as `\0` or with braces around the code. -/
def Kept (c : Char) : Prop :=
  c ∈ ['\t', '\r', '\n', '\\', '"'] ∨ Text.isUnprintable c = false

theorem control_unprintable {c : Char} (control : c.toNat < 0x20) :
    Text.isUnprintable c = true := by
  have listed : (0x0, 0x1F) ∈ Text.unprintableRanges :=
    List.mem_append_left _ (List.mem_append_left _ List.mem_cons_self)
  exact List.any_eq_true.mpr ⟨_, listed, by simp; omega⟩

/-- A kept character has an escape that JSON has too, or stands for itself. -/
theorem escape_kept {c : Char} (kept : Kept c) :
    (∃ e, (e, c) ∈ named ∧ Text.Quoted.escape c = ['\\', e]) ∨
      IsPlain c ∧ Text.Quoted.escape c = [c] := by
  unfold Text.Quoted.escape
  split
  case h_1 =>
    obtain among | shown := kept
    · exact absurd among (by decide)
    · exact absurd (control_unprintable (by decide)) (shown ▸ Bool.false_ne_true)
  case h_7 no_nul no_tab no_return no_newline no_backslash no_quote =>
    obtain among | shown := kept
    · simp_all
    · have visible : 0x20 ≤ c.toNat := by
        by_contra control
        rw [control_unprintable (Nat.lt_of_not_le control)] at shown
        cases shown
      exact .inr ⟨⟨visible, no_quote, no_backslash⟩, by rw [shown]; rfl⟩
  all_goals exact .inl ⟨_, by decide, rfl⟩

/-- The quoted form of other characters is nothing that JSON has in a string. -/
theorem scan_escape_lost {c : Char} (lost : ¬Kept c) (s : List Char) :
    inside.scan (Text.Quoted.escape c ++ s) = none := by
  unfold Text.Quoted.escape
  split
  case h_1 => rfl
  case h_7 =>
    have unprintable : Text.isUnprintable c = true :=
      Bool.not_eq_false _ ▸ fun shown => lost (.inr shown)
    rw [if_pos unprintable]
    rfl
  all_goals exact absurd (.inl (by decide)) lost

theorem scan_escape_kept {c : Char} (kept : Kept c) (s : List Char) :
    inside.scan (Text.Quoted.escape c ++ s) = inside.scan s := by
  obtain ⟨e, among, escaped⟩ | ⟨⟨visible, no_quote, no_backslash⟩, escaped⟩ := escape_kept kept
  · rw [escaped]
    exact scan_named among s
  · rw [escaped]
    exact scan_plain visible no_quote no_backslash s

/-- A quoted message whose characters are kept is a JSON string that stands for it. -/
theorem spells_message {message : List Char} (kept : ∀ c ∈ message, Kept c) :
    Spells (message.flatMap Text.Quoted.escape) message := by
  intro rest
  induction message with
  | nil => exact .close
  | cons c message ih =>
    have later := ih fun c among => kept c (List.mem_cons_of_mem _ among)
    rw [List.flatMap_cons, List.append_assoc]
    obtain ⟨e, among, escaped⟩ | ⟨⟨visible, no_quote, no_backslash⟩, escaped⟩ :=
      escape_kept (kept c List.mem_cons_self)
    · rw [escaped]
      exact .escape (.named among) later
    · rw [escaped]
      exact .plain visible no_quote no_backslash later

/-- One character that is not kept stops the scanner. -/
theorem scan_message_lost {message : List Char} (lost : ¬∀ c ∈ message, Kept c) (s : List Char) :
    inside.scan (message.flatMap Text.Quoted.escape ++ s) = none := by
  induction message with
  | nil => exact absurd (List.forall_mem_nil _) lost
  | cons c message ih =>
    rw [List.flatMap_cons, List.append_assoc]
    by_cases kept : Kept c
    · rw [scan_escape_kept kept]
      exact ih fun later => lost (List.forall_mem_cons.mpr ⟨kept, later⟩)
    · exact scan_escape_lost kept _

/-- The quoted form of a message is a JSON text just if all characters are kept. -/
theorem encode_isText_iff {message : List Char} {v : JsonValue} :
    IsText (Text.Quoted.encode message) v ↔
      (∀ c ∈ message, Kept c) ∧ v = .string (String.ofList message) := by
  have encode_eq : Text.Quoted.encode message =
      '"' :: (message.flatMap Text.Quoted.escape ++ '"' :: []) := rfl
  rw [encode_eq]
  constructor
  · intro is_text
    have kept : ∀ c ∈ message, Kept c := by
      by_contra lost
      have scanned : inside.scan (message.flatMap Text.Quoted.escape ++ '"' :: []) =
          some outside := is_text.scanned
      rw [scan_message_lost lost] at scanned
      cases scanned
    obtain ⟨before, value, -⟩ := is_text
    cases before.of_not_white (by decide)
    obtain ⟨chars, rfl, string⟩ := reads_string_iff.mp value
    obtain ⟨rfl, -⟩ := string.unique (spells_message kept [])
    exact ⟨kept, rfl⟩
  · rintro ⟨kept, rfl⟩
    exact ⟨.done, .string (spells_message kept []), .done⟩

/-! ## Times -/

/-- A character at its place in a form: any digit in place of a zero. -/
def Fits (want c : Char) : Prop := if want = '0' then c.isDigit = true else c = want

/-- A date and a time of day. -/
def moment : List Char :=
  ['0', '0', '0', '0', '-', '0', '0', '-', '0', '0', 'T', '0', '0', ':', '0', '0', ':', '0', '0']

/-- A time as RFC 3339 writes it, with or without a fraction of a second. -/
inductive Timestamp (time : String) : Prop
  | utc {front s : List Char} (parts : time.toList = front ++ s)
      (fits : List.Forall₂ Fits moment front) (fraction : Fraction s ['Z'])

/-- The scanner cannot tell a text from its form. -/
theorem scan_fits {wants front : List Char} (fits : List.Forall₂ Fits wants front) (place : Place) :
    place.scan front = place.scan wants := by
  induction fits generalizing place with
  | nil => rfl
  | @cons want c _ _ fits_one _ ih =>
    have same : place.next c = place.next want := by
      unfold Fits at fits_one
      split at fits_one
      case isTrue zero =>
        obtain ⟨n, small, rfl⟩ := Text.exists_digitChar fits_one
        subst zero
        interval_cases n <;> cases place <;> rfl
      case isFalse => rw [fits_one]
    rw [scan_cons, scan_cons, same]
    congr 1
    exact funext ih

theorem plain_fits {wants front : List Char} (fits : List.Forall₂ Fits wants front)
    (plain : ∀ c ∈ wants, IsPlain c) : ∀ c ∈ front, IsPlain c := by
  induction fits with
  | nil => exact List.forall_mem_nil _
  | @cons want c _ _ fits_one _ ih =>
    rw [List.forall_mem_cons] at plain ⊢
    refine ⟨?_, ih plain.2⟩
    unfold Fits at fits_one
    split at fits_one
    case isTrue => exact digit_plain fits_one
    case isFalse => exact fits_one ▸ plain.1

/-- Outside of a string, the scanner stops in front of the time of day. -/
theorem Timestamp.stops {time : String} (stamp : Timestamp time) (s : List Char) :
    outside.scan (time.toList ++ s) = none := by
  obtain ⟨parts, fits, -⟩ := stamp
  rw [parts, List.append_assoc, scan_append, scan_fits fits]
  rfl

theorem Timestamp.plain {time : String} (stamp : Timestamp time) :
    ∀ c ∈ time.toList, IsPlain c := by
  obtain ⟨parts, fits, fraction⟩ := stamp
  rw [parts, List.forall_mem_append]
  exact ⟨plain_fits fits (by simp [moment, IsPlain]), fraction.plain (by simp [IsPlain])⟩

/-! ## Lines -/

theorem toList_json (time : String) (level : Level) (target message : String) :
    (json time level target message).toList =
      '\x7b' :: '"' :: 't' :: 's' :: '"' :: ':' :: (time.toList ++ ',' ::
        entry ['l', 'v', 'l'] level.name.toList (',' ::
          entry ['t', 'a', 'r', 'g', 'e', 't'] target.toList (',' ::
            entry ['m', 's', 'g'] (message.toList.flatMap Text.Quoted.escape) ['\x7d']))) := by
  simp [json, entry, Text.Quoted.encode]

/-- Between quotes, the time is a member like the others. -/
theorem toList_json_quoted (time : String) (level : Level) (target message : String) :
    (json ("\"" ++ time ++ "\"") level target message).toList =
      '\x7b' :: entry ['t', 's'] time.toList (',' ::
        entry ['l', 'v', 'l'] level.name.toList (',' ::
          entry ['t', 'a', 'r', 'g', 'e', 't'] target.toList (',' ::
            entry ['m', 's', 'g'] (message.toList.flatMap Text.Quoted.escape) ['\x7d']))) := by
  rw [toList_json]
  simp [entry]

/-- The names of the members stand for themselves. -/
theorem spells_names : Spells ['t', 's'] ['t', 's'] ∧ Spells ['l', 'v', 'l'] ['l', 'v', 'l'] ∧
    Spells ['t', 'a', 'r', 'g', 'e', 't'] ['t', 'a', 'r', 'g', 'e', 't'] ∧
      Spells ['m', 's', 'g'] ['m', 's', 'g'] := by
  refine ⟨?_, ?_, ?_, ?_⟩ <;> exact spells_plain (by simp [IsPlain])

theorem level_plain (level : Level) : ∀ c ∈ level.name.toList, IsPlain c := by
  cases level <;> simp [Level.name, IsPlain]

/-- The program's own reports come from targets that stand for themselves. -/
theorem target_plain (d : Diagnostic) : ∀ c ∈ d.target.toList, IsPlain c := by
  cases d <;> simp [Diagnostic.target, IsPlain]

/-- With the time bare, a line is no JSON text. -/
theorem json_bare {time : String} (stamp : Timestamp time) (level : Level)
    (target message : String) (v : JsonValue) :
    ¬IsText (json time level target message).toList v := by
  intro is_text
  have scanned := is_text.scanned
  rw [toList_json] at scanned
  have opening (s : List Char) :
      outside.scan ('\x7b' :: '"' :: 't' :: 's' :: '"' :: ':' :: s) = outside.scan s := rfl
  rw [opening, stamp.stops] at scanned
  cases scanned

theorem parse?_json {time : String} (stamp : Timestamp time) (level : Level)
    (target message : String) : parse? (json time level target message) = none := by
  cases read : parse? (json time level target message) with
  | none => rfl
  | some v => exact absurd (isText_of_parse? read) (json_bare stamp level target message v)

section Quoted

variable {time : String} (stamp : Timestamp time) {target : String}
  (plain : ∀ c ∈ target.toList, IsPlain c)

include stamp plain

/-- With the time between quotes, a line that is a JSON text has a message of characters
that are kept. -/
theorem kept_of_isText {level : Level} {message : String} {v : JsonValue}
    (is_text : IsText (json ("\"" ++ time ++ "\"") level target message).toList v) :
    ∀ c ∈ message.toList, Kept c := by
  by_contra lost
  obtain ⟨name_ts, name_lvl, name_target, name_msg⟩ := spells_names
  have scanned := is_text.scanned
  rw [toList_json_quoted, scan_outer (by decide),
    scan_entry name_ts (spells_plain stamp.plain), scan_outer (by decide),
    scan_entry name_lvl (spells_plain (level_plain level)), scan_outer (by decide),
    scan_entry name_target (spells_plain plain), scan_outer (by decide),
    scan_name name_msg, scan_message_lost lost] at scanned
  cases scanned

theorem isText_iff_of_kept (level : Level) {message : String}
    (kept : ∀ c ∈ message.toList, Kept c) (v : JsonValue) :
    IsText (json ("\"" ++ time ++ "\"") level target message).toList v ↔
      v = .object [("ts", .string time), ("lvl", .string level.name),
        ("target", .string target), ("msg", .string message)] := by
  obtain ⟨name_ts, name_lvl, name_target, name_msg⟩ := spells_names
  rw [toList_json_quoted, isText_object_iff]
  simp only [reads_more_iff name_ts (spells_plain stamp.plain),
    reads_more_iff name_lvl (spells_plain (level_plain level)),
    reads_more_iff name_target (spells_plain plain),
    reads_last_iff name_msg (spells_message kept), String.ofList_toList]
  constructor
  · rintro ⟨_, _, rfl, ⟨_, rfl, _, rfl, _, rfl, rfl, -⟩, -⟩
    rfl
  · rintro rfl
    exact ⟨_, [], rfl, ⟨_, rfl, _, rfl, _, rfl, rfl, rfl⟩, .done⟩

end Quoted

/-- A report's line is never a JSON text. Its message alone is one just if all of its
characters are kept, and stands for itself then. If the time stood between quotes, so it
would be with the whole line, for a target of characters that stand for themselves: it
would be the object of the four. -/
theorem json_needs_quoted_time {time : String} (stamp : Timestamp time) (level : Level)
    (target message : String) (v : JsonValue) :
    ¬IsText (json time level target message).toList v ∧
      (IsText (Text.Quoted.encode message.toList) v ↔
        (∀ c ∈ message.toList, Kept c) ∧ v = .string message) ∧
      ((∀ c ∈ target.toList, IsPlain c) →
        (IsText (json ("\"" ++ time ++ "\"") level target message).toList v ↔
          (∀ c ∈ message.toList, Kept c) ∧
            v = .object [("ts", .string time), ("lvl", .string level.name),
              ("target", .string target), ("msg", .string message)])) := by
  refine ⟨json_bare stamp level target message v, ?_, fun plain => ?_⟩
  · rw [encode_isText_iff, String.ofList_toList]
  · constructor
    · intro is_text
      have kept := kept_of_isText stamp plain is_text
      exact ⟨kept, (isText_iff_of_kept stamp plain level kept v).mp is_text⟩
    · rintro ⟨kept, rfl⟩
      exact (isText_iff_of_kept stamp plain level kept _).mpr rfl

theorem timestamp_midnight : Timestamp "2024-01-01T00:00:00Z" :=
  @Timestamp.utc _ "2024-01-01T00:00:00".toList ['Z'] (by simp) (by simp [moment, Fits]) .absent

/-- Read at a message with a quote and a character beyond ASCII. -/
theorem json_needs_quoted_time_snowman :
    (∀ v, ¬IsText (json "2024-01-01T00:00:00Z" .warn "rawmd::input" "\"☃").toList v) ∧
    IsText (json ("\"" ++ "2024-01-01T00:00:00Z" ++ "\"") .warn "rawmd::input" "\"☃").toList
      (.object [("ts", .string "2024-01-01T00:00:00Z"), ("lvl", .string "WARN"),
        ("target", .string "rawmd::input"), ("msg", .string "\"☃")]) := by
  have kept : ∀ c ∈ "\"☃".toList, Kept c := by
    intro c among
    have known : c = '"' ∨ c = '☃' := by simpa using among
    obtain rfl | rfl := known
    · exact .inl (by decide)
    · exact .inr (by decide +kernel)
  have plain : ∀ c ∈ "rawmd::input".toList, IsPlain c := target_plain (.chunksFound 0 ⟨[]⟩)
  refine ⟨fun v => (json_needs_quoted_time timestamp_midnight .warn _ _ v).1, ?_⟩
  exact ((json_needs_quoted_time timestamp_midnight .warn _ _ _).2.2 plain).mpr ⟨kept, rfl⟩

/-- A line is not read because of its time; and with the time between quotes, one whose
message has an accent of its own, U+0301, is not read because of that. -/
theorem report_not_json : Timestamp "2024-01-01T00:00:00Z" ∧
    (¬∃ v, IsText (json "2024-01-01T00:00:00Z" .info "rawmd::cli::info"
      "Analyzing RAW recording: A.RAW").toList v) ∧
    ¬∃ v, IsText (json ("\"" ++ "2024-01-01T00:00:00Z" ++ "\"") .info "rawmd::cli::info"
      "Analyzing RAW recording: e\u0301.RAW").toList v := by
  refine ⟨timestamp_midnight, ?_, ?_⟩
  · rintro ⟨v, is_text⟩
    exact json_bare timestamp_midnight _ _ _ v is_text
  · rintro ⟨v, is_text⟩
    have kept := kept_of_isText timestamp_midnight (target_plain (.analyzing ⟨[]⟩)) is_text
    have among : '\u0301' ∈ "Analyzing RAW recording: e\u0301.RAW".toList := by simp
    obtain named | shown := kept _ among
    · exact absurd named (by decide)
    · exact absurd shown (by decide +kernel)

end RawReel.LogLine
