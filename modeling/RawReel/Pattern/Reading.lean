import RawReel.Pattern
import RawReel.Pattern.Error
import RawReel.Text.Blank
import RawReel.Text.Digits

/-!
Reading an expression character by character: single characters, and what a backslash makes of those
after it. A fault in how the expression is written ends the reading. What is written well but cannot
be matched, because it needs tables of Unicode or leaves UTF-8, is noted, and counts only if the
expression is written well to its end.
-/

namespace RawReel.Pattern

/-- Switches that an expression can set for what follows in the same group. -/
structure Switches where
  anyCase : Bool
  multiLine : Bool
  dotTakesLineFeed : Bool
  crlf : Bool
  unicode : Bool
  /-- Blanks stand for nothing, and a number sign starts a comment. -/
  ignoresBlanks : Bool

structure Reading where
  rest : List Char
  position : Nat
  switches : Switches
  /-- The names of groups, and where they are given. -/
  names : List (List Char × Span)
  /-- Why an expression that is written well cannot be matched. -/
  refusal : Option PatternError

abbrev Parser := StateT Reading (Except PatternError)

def peek? : Parser (Option Char) := return (← get).rest.head?

def atEnd : Parser Bool := return (← get).rest.isEmpty

def position : Parser Nat := return (← get).position

def switches : Parser Switches := return (← get).switches

def fail {α : Type} (fault : PatternFault) (first last : Nat) : Parser α :=
  throw (.written fault [⟨first, last⟩])

/-- A fault between two characters. -/
def failHere {α : Type} (fault : PatternFault) : Parser α := do
  fail fault (← position) (← position)

/-- A fault of the next character. -/
def failAtChar {α : Type} (fault : PatternFault) : Parser α := do
  fail fault (← position) ((← position) + 1)

/-- Notes that something cannot be matched. What is noted first counts. -/
def refuse (fault : PatternFault) (first last : Nat) : Parser Unit :=
  modify fun r => match r.refusal with
    | some (.written ..) => r
    | _ => { r with refusal := some (.written fault [⟨first, last⟩]) }

/-- Notes that the expression asks for words. Anything else noted counts before it. -/
def refuseWords : Parser Unit :=
  modify fun r => { r with refusal := r.refusal <|> some .wordsUnavailable }

/-- Passes over `n` characters. -/
def skip (n : Nat) : Parser Unit :=
  modify fun r => { r with rest := r.rest.drop n, position := r.position + n }

/-- Drops blanks and comments; a comment goes to the end of its line. -/
def dropIgnored : (inComment : Bool) → List Char → List Char
  | _, [] => []
  | true, c :: rest => dropIgnored (c != '\n') rest
  | false, c :: rest =>
    if Text.isBlank c then dropIgnored false rest
    else if c = '#' then dropIgnored true rest
    else c :: rest

/-- Passes over blanks and comments, where they stand for nothing. -/
def skipIgnored : Parser Unit := do
  let r ← get
  if r.switches.ignoresBlanks then
    skip (r.rest.length - (dropIgnored false r.rest).length)

/-- Passes over a character, and over what stands for nothing after it. -/
def advance : Parser Unit := do
  skip 1
  skipIgnored

/-- Passes over a character if it comes next, and tells whether it did. -/
def accept (c : Char) : Parser Bool := do
  if (← peek?) = some c then skip 1; return true
  else return false

/-- Passes over a text if it comes next, and tells whether it did. -/
def acceptText (text : String) : Parser Bool := do
  if text.toList.isPrefixOf (← get).rest then skip text.length; return true
  else return false

/-- Reads the characters of a kind that come next, at most `fuel` of them. -/
def readUpTo (test : Char → Bool) : (fuel : Nat) → Parser (List Char)
  | 0 => return []
  | fuel + 1 => do
    match ← peek? with
    | none => return []
    | some c =>
      if test c then
        advance
        return c :: (← readUpTo test fuel)
      else return []

/-- Reads all characters of a kind that come next. -/
def readWhile (test : Char → Bool) : Parser (List Char) := do
  readUpTo test (← get).rest.length

/-- What a character or a backslash sequence stands for. -/
inductive Meaning
  /-- A character, which may be given as the number of a byte. -/
  | literal (c : Char) (isByte : Bool)
  | oneOf (set : CharSet)
  | assertion (condition : Assertion)

/-- The character of a number that was written between two places. -/
def codePoint (digits : List Char) (first last : Nat) : Parser Char :=
  let n := Text.ofHex digits
  if h : n.isValidChar then return Char.ofNatAux n h else fail .hexInvalid first last

/-- A character given by its number: in braces, or with a fixed count of digits. -/
def numberedChar (count : Nat) : Parser Char := do
  advance
  if ← atEnd then failHere .escapeUnfinished
  let first ← position
  let isHex (c : Char) : Bool := (Text.hexDigit? c).isSome
  if (← peek?) = some '\x7b' then
    advance
    let digits ← readWhile isHex
    match ← peek? with
    | none => fail .escapeUnfinished first (← position)
    | some '\x7d' =>
      let last ← position
      advance
      if digits.isEmpty then fail .hexEmpty first (← position)
      else codePoint digits (first + 1) last
    | some _ => failAtChar .hexDigitInvalid
  else
    let digits ← readUpTo isHex count
    if digits.length = count then codePoint digits first (← position)
    else if ← atEnd then failHere .escapeUnfinished
    else failAtChar .hexDigitInvalid

/-- Abbreviations of properties that are also values of one. -/
def ambiguousProperties : List String := ["cf", "sc", "lc"]

/-- Is the name one of the ambiguous ones, less what does not count in a name? -/
def isAmbiguousProperty (name : List Char) : Bool :=
  let plain := (name.filter fun c => !(c == ' ' || c == '_' || c == '-')).map Char.toLower
  let plain := match plain with
    | 'i' :: 's' :: rest => rest
    | plain => plain
  ambiguousProperties.contains (String.ofList plain)

/-- A property of characters, of which none is known. -/
def property (start : Nat) : Parser Meaning := do
  advance
  if ← atEnd then failHere .escapeUnfinished
  let name ←
    if (← peek?) = some '\x7b' then do
      advance
      let name ← readWhile (· != '\x7d')
      if ← atEnd then failHere .escapeUnfinished
      skip 1
      pure name
    else do
      if (← peek?) = some '\\' then failAtChar .propertyInvalid
      advance
      pure []
  let fault := if !(← switches).unicode then PatternFault.unicodeForbidden
    else if isAmbiguousProperty name then .propertyValueUnknown
    else .propertyUnknown
  refuse fault start (← position)
  return .oneOf .nothing

/-- Digits, blanks or word characters, or all characters but those. -/
def namedSet (start : Nat) (ranges : List (Char × Char)) (negated : Bool) : Parser Meaning := do
  skip 1
  if (← switches).unicode then refuse .classUnavailable start (← position)
  else if negated then refuse .outsideUtf8 start (← position)
  return .oneOf (.negateIf negated (.ofRanges ranges))

/-- Conditions on words that are given by name. -/
def wordAssertions : List (String × Assertion) :=
  [("start", .wordStart), ("end", .wordEnd), ("start-half", .wordStartHalf),
    ("end-half", .wordEndHalf)]

/-- What follows `\b`: the name of a condition in braces, or something else. -/
def wordAssertion (start : Nat) : Parser Assertion := do
  if (← peek?) ≠ some '\x7b' then return .wordBoundary
  let here ← get
  advance
  if ← atEnd then fail .wordAssertionUnfinished start (← position)
  let isNameChar (c : Char) : Bool := c.isAlpha || c == '-'
  if !(← peek?).any isNameChar then
    set here
    return .wordBoundary
  let first ← position
  let name ← readWhile isNameChar
  let last ← position
  if !(← accept '\x7d') then fail .wordAssertionUnclosed here.position last
  match wordAssertions.lookup (String.ofList name) with
  | some condition => return condition
  | none => fail .wordAssertionUnknown first last

/-- A condition on words. -/
def onWords (condition : Assertion) : Parser Meaning := do
  if (← switches).unicode then refuseWords
  return .assertion condition

/-- Characters that stand for something else unless a backslash precedes them. -/
def metaCharacters : List Char :=
  ['\\', '.', '+', '*', '?', '(', ')', '|', '[', ']', '\x7b', '\x7d', '^', '$', '#', '&', '-', '~']

/-- Characters that stand for themselves after a backslash. -/
def isEscapable (c : Char) : Bool :=
  metaCharacters.contains c || (0x20 ≤ c.toNat && c.toNat < 0x7f && !c.isAlphanum
    && c != '<' && c != '>')

/-- Characters that have a letter after the backslash. -/
def letterEscapes : List (Char × Char) :=
  [('a', '\x07'), ('f', '\x0c'), ('n', '\n'), ('r', '\r'), ('t', '\t'), ('v', '\x0b')]

/-- Reads a backslash and what belongs to it. -/
def readEscape : Parser Meaning := do
  let start ← position
  skip 1
  match ← peek? with
  | none => fail .escapeUnfinished start (← position)
  | some c =>
    if c.isDigit then fail .backreference start ((← position) + 1)
    match c with
    | 'x' =>
      let byte := (← get).rest[1]? != some '\x7b'
      return .literal (← numberedChar 2) byte
    | 'u' => return .literal (← numberedChar 4) false
    | 'U' => return .literal (← numberedChar 8) false
    | 'p' | 'P' => property start
    | 'd' => namedSet start CharSet.digitRanges false
    | 'D' => namedSet start CharSet.digitRanges true
    | 's' => namedSet start CharSet.spaceRanges false
    | 'S' => namedSet start CharSet.spaceRanges true
    | 'w' => namedSet start CharSet.wordRanges false
    | 'W' => namedSet start CharSet.wordRanges true
    | c =>
      skip 1
      if isEscapable c then return .literal c false
      match letterEscapes.lookup c, c with
      | some named, _ => return .literal named false
      | none, 'A' => return .assertion .textStart
      | none, 'z' => return .assertion .textEnd
      | none, 'b' => onWords (← wordAssertion start)
      | none, 'B' => onWords .noWordBoundary
      | none, '<' => onWords .wordStart
      | none, '>' => onWords .wordEnd
      | none, _ => fail .escapeUnknown start (← position)

end RawReel.Pattern
