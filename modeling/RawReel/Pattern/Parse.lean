import RawReel.Pattern.Bracket

/-!
Reading regular expressions as they are written: sequences, alternatives, groups and repetitions.
-/

namespace RawReel.Pattern

/-- What has been read of a sequence, last first: patterns, and places where switches were set,
which cannot be repeated. -/
abbrev Items := List (Option Pattern)

/-- The items as one pattern. -/
def Items.toPattern (items : Items) : Pattern :=
  (items.filterMap id).foldl (fun after item => match after with
    | .empty => item
    | after => .sequence item after) .empty

/-- A character that stands for itself. -/
def ofLiteral (place : Span) (c : Char) (isByte : Bool) : Parser Pattern := do
  let s ← switches
  if s.unicode then
    if s.anyCase then refuse .caseUnavailable place.first place.last
    return .one (.single c)
  else
    if isByte && 0x80 ≤ c.toNat then refuse .outsideUtf8 place.first place.last
    return .one (if s.anyCase && c.isAlpha then .anyCase (.single c) else .single c)

/-- What a dot at a place stands for. -/
def ofDot (place : Nat) : Parser Pattern := do
  let s ← switches
  if !s.unicode then refuse .outsideUtf8 place (place + 1)
  let lineEnds := if s.dotTakesLineFeed then [] else if s.crlf then ['\n', '\r'] else ['\n']
  return .one (.complement (.ofRanges (lineEnds.map fun c => (c, c))))

def ofMeaning (place : Span) : Meaning → Parser Pattern
  | .literal c isByte => ofLiteral place c isByte
  | .oneOf set => return .one set
  | .assertion condition => return .assertion condition

/-- Repeats the last item. A question mark after the operator only changes which match is
preferred. -/
def repeatLast (items : Items) (least : Nat) (most : Option Nat) : Items :=
  match items with
  | some item :: before => some (.repeated item least most) :: before
  | items => items

/-- A decimal number of 32 bits with blanks around it; none, or one that is too large, is a
fault. -/
def readNumber : Parser (Except PatternError Nat) := do
  let skipBlanks : Parser Unit := do
    let r ← get
    skip (r.rest.takeWhile Text.isBlank).length
  skipBlanks
  let first ← position
  let digits ← readWhile Char.isDigit
  let place : Span := ⟨first, ← position⟩
  skipBlanks
  let n := Text.ofDecimal digits
  return if digits.isEmpty then .error (.written .countEmpty [place])
    else if n < UInt32.size then .ok n
    else .error (.written .decimalInvalid [place])

/-- The bounds of a counted repetition, from its opening brace on. -/
def readCounts : Parser (Nat × Option Nat) := do
  let start ← position
  let unclosed {α : Type} : Parser α := do fail .countUnclosed start (← position)
  advance
  if ← atEnd then unclosed
  let least ← readNumber
  if ← atEnd then unclosed
  let (least, most) ←
    if (← peek?) = some ',' then do
      advance
      if ← atEnd then unclosed
      let least ← liftM least
      if (← peek?) = some '\x7d' then pure (least, none)
      else do
        let most ← liftM (← readNumber)
        pure (least, some most)
    else do
      let least ← liftM least
      pure (least, some least)
  if (← peek?) ≠ some '\x7d' then unclosed
  advance
  let _ ← accept '?'
  if most.any (· < least) then fail .countInvalid start (← position)
  return (least, most)

/-- The switches, by their letters. -/
def setSwitch? (s : Switches) (value : Bool) : Char → Option Switches
  | 'i' => some { s with anyCase := value }
  | 'm' => some { s with multiLine := value }
  | 's' => some { s with dotTakesLineFeed := value }
  | 'R' => some { s with crlf := value }
  | 'u' => some { s with unicode := value }
  | 'x' => some { s with ignoresBlanks := value }
  | 'U' => some s
  | _ => none

/-- Reads switches, up to what ends them. `seen` are the characters read so far and their places;
those after a dash are switched off. -/
def readSwitches : (fuel : Nat) → (value : Bool) → (seen : List (Char × Nat)) → Switches →
    Parser Switches
  | 0, _, _, s => return s
  | fuel + 1, value, seen, s => do
    let place ← position
    match ← peek? with
    | none => failHere .flagUnfinished
    | some c =>
      if c = ':' ∨ c = ')' then
        match seen with
        | ('-', dash) :: _ => fail .flagDangling dash (dash + 1)
        | _ => return s
      else
        match (if c = '-' then some s else setSwitch? s value c), seen.lookup c with
        | none, _ => failAtChar .flagUnknown
        | some _, some earlier =>
          throw (.written (if c = '-' then .flagNegatedTwice else .flagDuplicate)
            [⟨earlier, earlier + 1⟩, ⟨place, place + 1⟩])
        | some s, none =>
          skip 1
          readSwitches fuel (value && c != '-') ((c, place) :: seen) s

/-- May the character stand in the name of a group? Beyond ASCII, all count as letters. -/
def isNameChar (isFirst : Bool) (c : Char) : Bool :=
  c == '_' || c.isAlpha || 0x80 ≤ c.toNat
    || (!isFirst && (c.isDigit || c == '.' || c == '[' || c == ']'))

/-- Reads the name of a group, up to and including the angle bracket after it. -/
def readName : Parser Unit := do
  let first ← position
  let written := (← get).rest.takeWhile (· != '>')
  match written.findIdx? fun c => !isNameChar false c with
  | some n => fail .nameInvalid (first + n) (first + n + 1)
  | none =>
    if written.head?.any fun c => !isNameChar true c then
      fail .nameInvalid first (first + 1)
    skip written.length
    let place : Span := ⟨first, ← position⟩
    if ← atEnd then failHere .nameUnfinished
    skip 1
    if written.isEmpty then fail .nameEmpty first first
    match (← get).names.lookup written with
    | some earlier => throw (.written .nameDuplicate [earlier, place])
    | none => modify fun r => { r with names := (written, place) :: r.names }

/-- Reads what follows the opening parenthesis at `start`, and sets switches that stand there.
False if they are all that the parentheses hold. -/
def openGroup (start : Nat) : Parser Bool := do
  skipIgnored
  let inner ← position
  for look in ["?=", "?!", "?<=", "?<!"] do
    if ← acceptText look then fail .lookAround start (← position)
  if ← acceptText "?P<" then readName; return true
  else if ← acceptText "?<" then readName; return true
  else if ← accept '?' then
    if ← atEnd then fail .groupUnclosed start (start + 1)
    let first ← position
    let s ← readSwitches ((← get).rest.length + 1) true [] (← switches)
    let isGroup := (← peek?) == some ':'
    if !isGroup && (← position) = first then fail .repetitionMissing inner inner
    skip 1
    modify fun r => { r with switches := s }
    return isGroup
  else return true

/-- Reads alternatives up to the end, or up to the parenthesis that closes the group opened at
`opened`. -/
def readAlternatives : (fuel : Nat) → (opened : Option Nat) → Items → Parser Pattern
  | 0, _, items => return items.toPattern
  | fuel + 1, opened, items => do
    skipIgnored
    let place ← position
    let s ← switches
    let goOn (items : Items) : Parser Pattern := readAlternatives fuel opened items
    let add (item : Pattern) : Parser Pattern := goOn (some item :: items)
    let isRepeatable := (items.head?.bind id).isSome
    let repetition (least : Nat) (most : Option Nat) : Parser Pattern := do
      if !isRepeatable then failHere .repetitionMissing
      skip 1
      let _ ← accept '?'
      goOn (repeatLast items least most)
    match ← peek? with
    | none =>
      match opened with
      | some start => fail .groupUnclosed start (start + 1)
      | none => return items.toPattern
    | some '(' =>
      skip 1
      if ← openGroup place then
        let inner ← readAlternatives fuel (some place) []
        modify fun r => { r with switches := s }
        add inner
      else goOn (none :: items)
    | some ')' =>
      if opened.isNone then failAtChar .groupUnopened
      skip 1
      return items.toPattern
    | some '|' =>
      skip 1
      return .either items.toPattern (← readAlternatives fuel opened [])
    | some '*' => repetition 0 none
    | some '+' => repetition 1 none
    | some '?' => repetition 0 (some 1)
    | some '\x7b' =>
      if !isRepeatable then failHere .repetitionMissing
      let (least, most) ← readCounts
      goOn (repeatLast items least most)
    | some '[' => add (.one (← readSet ((← get).rest.length + 1)))
    | some '.' =>
      skip 1
      add (← ofDot place)
    | some '^' =>
      skip 1
      add (.assertion (if !s.multiLine then .textStart else if s.crlf then .lineStartCrlf
        else .lineStart))
    | some '$' =>
      skip 1
      add (.assertion (if !s.multiLine then .textEnd else if s.crlf then .lineEndCrlf
        else .lineEnd))
    | some '\\' =>
      let meaning ← readEscape
      add (← ofMeaning ⟨place, ← position⟩ meaning)
    | some c =>
      skip 1
      add (← ofLiteral ⟨place, place + 1⟩ c false)

/-- The pattern that an expression stands for. -/
def parse (source : String) : Except PatternError Pattern := do
  let chars := source.toList
  let start : Reading := ⟨chars, 0, ⟨false, false, false, false, true, false⟩, [], none⟩
  let (pattern, after) ← (readAlternatives (chars.length + 1) none []).run start
  match after.refusal with
  | some e => .error e
  | none => .ok pattern

end RawReel.Pattern
