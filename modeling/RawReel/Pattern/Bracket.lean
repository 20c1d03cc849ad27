import RawReel.Pattern.Reading

/-!
Sets of characters in brackets: characters, ranges, named sets, brackets within brackets, and what
two sets have in common or do not.
-/

namespace RawReel.Pattern

/-- Does a set, taken as one of bytes, hold ASCII only? -/
def isAsciiOnly (set : CharSet) : Bool :=
  (List.range 128).all fun n => !set.contains (Char.ofNat (0x80 + n))

/-- The set that was written between two places, with regard to letter case and negation. -/
def finishSet (first last : Nat) (negated : Bool) (set : CharSet) : Parser CharSet := do
  let s ← switches
  if s.unicode then
    if s.anyCase then refuse .caseUnavailable first last
    return .negateIf negated set
  else
    let finished := CharSet.negateIf negated (if s.anyCase then .anyCase set else set)
    if !isAsciiOnly finished then refuse .outsideUtf8 first last
    return finished

/-- Sets inside brackets that are given by name. -/
def namedRanges : List (String × List (Char × Char)) := [
  ("alnum", CharSet.digitRanges ++ CharSet.letterRanges), ("alpha", CharSet.letterRanges),
  ("ascii", [('\x00', '\x7f')]), ("blank", [('\t', '\t'), (' ', ' ')]),
  ("cntrl", [('\x00', '\x1f'), ('\x7f', '\x7f')]), ("digit", CharSet.digitRanges),
  ("graph", [('!', '~')]), ("lower", [('a', 'z')]), ("print", [(' ', '~')]),
  ("punct", [('!', '/'), (':', '@'), ('[', '\x60'), ('\x7b', '~')]),
  ("space", CharSet.spaceRanges), ("upper", [('A', 'Z')]), ("word", CharSet.wordRanges),
  ("xdigit", [('0', '9'), ('A', 'F'), ('a', 'f')])]

/-- A set of a name such as `[:alpha:]` or `[:^alpha:]`. -/
structure NamedRanges where
  ranges : List (Char × Char)
  negated : Bool
  /-- How many characters its name takes. -/
  length : Nat

/-- The named set that the text starts with, if it starts with one. -/
def NamedRanges.ofText? (text : List Char) : Option NamedRanges :=
  match text with
  | '[' :: ':' :: tail =>
    let negated := tail.head? == some '^'
    let tail := if negated then tail.tail else tail
    let name := tail.takeWhile (· != ':')
    if (tail.drop name.length).take 2 = [':', ']'] then
      (namedRanges.lookup (String.ofList name)).map fun ranges =>
        ⟨ranges, negated, name.length + (if negated then 5 else 4)⟩
    else none
  | _ => none

/-- A character or a backslash sequence in brackets, and where it is written. -/
structure Item where
  place : Span
  meaning : Meaning

def readItem : Parser Item := do
  let first ← position
  match ← peek? with
  | some '\\' =>
    let meaning ← readEscape
    return ⟨⟨first, ← position⟩, meaning⟩
  | some c =>
    skip 1
    return ⟨⟨first, first + 1⟩, .literal c false⟩
  | none => failHere .setUnclosed

/-- A set of bytes holds no character beyond ASCII. -/
def checkLiteral (place : Span) (c : Char) (isByte : Bool) : Parser Unit := do
  if !(← switches).unicode && 0x80 ≤ c.toNat then
    refuse (if isByte then .outsideUtf8 else .unicodeForbidden) place.first place.last

/-- The set that an item stands for by itself. -/
def Item.toSet (item : Item) : Parser CharSet := do
  match item.meaning with
  | .literal c isByte =>
    checkLiteral item.place c isByte
    return .single c
  | .oneOf set => return set
  | .assertion _ => fail .escapeInSet item.place.first item.place.last

/-- The character at the end of a range. -/
def Item.toBoundary (item : Item) : Parser (Char × Bool) := do
  match item.meaning with
  | .literal c isByte => return (c, isByte)
  | _ => fail .rangeBoundary item.place.first item.place.last

/-- Reads an item, or a range of characters. `unclosed` is the fault if the expression ends. -/
def readRange (unclosed : Parser CharSet) : Parser CharSet := do
  let lower ← readItem
  skipIgnored
  let r ← get
  let rest := if r.switches.ignoresBlanks then dropIgnored false r.rest.tail else r.rest.tail
  if r.rest.isEmpty then unclosed
  else if r.rest.head? ≠ some '-' ∨ rest.head? = some ']' ∨ rest.head? = some '-' then lower.toSet
  else
    advance
    if ← atEnd then unclosed
    else
      let upper ← readItem
      let (first, firstIsByte) ← lower.toBoundary
      let (last, lastIsByte) ← upper.toBoundary
      if last < first then fail .rangeInvalid lower.place.first upper.place.last
      else
        checkLiteral lower.place first firstIsByte
        checkLiteral upper.place last lastIsByte
        return .range first last

/-- The left side of an operation on sets, and where its right side starts. -/
structure LeftSide where
  operation : CharSet → CharSet → CharSet
  set : CharSet
  rightStart : Nat

/-- Carries out an operation whose right side ends here. -/
def combine (left : Option LeftSide) (right : CharSet) : Parser CharSet := do
  match left with
  | none => return right
  | some left =>
    let s ← switches
    if s.anyCase && s.unicode then refuse .caseUnavailable left.rightStart (← position)
    return if s.anyCase then left.operation (.anyCase left.set) (.anyCase right)
      else left.operation left.set right

/-- The operation on sets that the text starts with. -/
def operation? : List Char → Option (CharSet → CharSet → CharSet)
  | '&' :: '&' :: _ => some .intersection
  | '-' :: '-' :: _ => some .difference
  | '~' :: '~' :: _ => some .symmetricDifference
  | _ => none

mutual

/-- Reads a set, from its opening bracket to its closing one. -/
def readSet : (fuel : Nat) → Parser CharSet
  | 0 => failHere .setUnclosed
  | fuel + 1 => do
    let start ← position
    advance
    let negated := (← peek?) == some '^'
    if negated then advance
    if ← atEnd then fail .setUnclosed start (← position)
    let dashes ← readWhile (· == '-')
    if ← atEnd then fail .setUnclosed start start
    let bracket := dashes.isEmpty && (← peek?) == some ']'
    if bracket then advance
    if ← atEnd then fail .setUnclosed start (← position)
    let opening : Span := ⟨start, ← position⟩
    let set ← readItems fuel opening none
      (if bracket then .single ']' else if dashes.isEmpty then .nothing else .single '-')
    finishSet start (← position) negated set

/-- Reads the rest of a set that was opened at `opening`, up to and including its closing bracket;
`items` was read since the last operation. -/
def readItems : (fuel : Nat) → (opening : Span) → (left : Option LeftSide) → (items : CharSet) →
    Parser CharSet
  | 0, opening, _, _ => fail .setUnclosed opening.first opening.last
  | fuel + 1, opening, left, items => do
    skipIgnored
    let place ← position
    let rest := (← get).rest
    match operation? rest, NamedRanges.ofText? rest with
    | some operation, _ =>
      let set ← combine left items
      skip 2
      readItems fuel opening (some ⟨operation, set, ← position⟩) .nothing
    | none, some named =>
      skip named.length
      let set ← finishSet place (← position) named.negated (.ofRanges named.ranges)
      readItems fuel opening left (.union items set)
    | none, none =>
      match rest.head? with
      | none => fail .setUnclosed opening.first opening.last
      | some ']' =>
        let set ← combine left items
        skip 1
        return set
      | some '[' =>
        let set ← readSet fuel
        readItems fuel opening left (.union items set)
      | some _ =>
        let set ← readRange (fail .setUnclosed opening.first opening.last)
        readItems fuel opening left (.union items set)

end

end RawReel.Pattern
