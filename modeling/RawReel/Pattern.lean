/-!
Regular expressions, and whether a text holds a match of one. Words and letter case are those of
ASCII.
-/

namespace RawReel

/-- A set of characters. -/
inductive CharSet
  | nothing
  | range (first last : Char)
  | union (a b : CharSet)
  | intersection (a b : CharSet)
  | difference (a b : CharSet)
  | symmetricDifference (a b : CharSet)
  | complement (a : CharSet)
  /-- With every letter, the same letter in the other case. -/
  | anyCase (a : CharSet)
  deriving DecidableEq

namespace CharSet

/-- A character in the other letter case. -/
def otherCase (c : Char) : Char := if c.isUpper then c.toLower else c.toUpper

def contains : CharSet → Char → Bool
  | nothing, _ => false
  | range first last, c => first ≤ c && c ≤ last
  | union a b, c => a.contains c || b.contains c
  | intersection a b, c => a.contains c && b.contains c
  | difference a b, c => a.contains c && !b.contains c
  | symmetricDifference a b, c => a.contains c != b.contains c
  | complement a, c => !a.contains c
  | anyCase a, c => a.contains c || a.contains (otherCase c)

def single (c : Char) : CharSet := range c c

def ofRanges (ranges : List (Char × Char)) : CharSet :=
  ranges.foldr (fun (first, last) set => union (range first last) set) nothing

def negateIf (negated : Bool) (set : CharSet) : CharSet :=
  if negated then complement set else set

def digitRanges : List (Char × Char) := [('0', '9')]

def letterRanges : List (Char × Char) := [('A', 'Z'), ('a', 'z')]

def wordRanges : List (Char × Char) := digitRanges ++ letterRanges ++ [('_', '_')]

def spaceRanges : List (Char × Char) := [('\t', '\r'), (' ', ' ')]

end CharSet

/-- A condition on the place between two characters. -/
inductive Assertion
  | textStart
  | textEnd
  | lineStart
  | lineEnd
  /-- Lines end in a carriage return, a line feed, or both. -/
  | lineStartCrlf
  | lineEndCrlf
  | wordBoundary
  | noWordBoundary
  | wordStart
  | wordEnd
  /-- No word character stands before the place. -/
  | wordStartHalf
  /-- No word character follows the place. -/
  | wordEndHalf
  deriving DecidableEq

inductive Pattern
  | empty
  | one (set : CharSet)
  | assertion (condition : Assertion)
  | sequence (first second : Pattern)
  | either (first second : Pattern)
  | repeated (body : Pattern) (least : Nat) (most : Option Nat)

namespace Pattern

/-- A place in a text: what stands before it, backwards, and what follows. -/
structure Place where
  before : List Char
  after : List Char

def isWordChar (c : Option Char) : Bool := c.any (CharSet.ofRanges CharSet.wordRanges).contains

/-- Does a condition hold at a place? -/
def holdsAt (p : Place) (condition : Assertion) : Bool :=
  let previous := p.before.head?
  let next := p.after.head?
  match condition with
  | .textStart => previous.isNone
  | .textEnd => next.isNone
  | .lineStart => previous.all (· == '\n')
  | .lineEnd => next.all (· == '\n')
  | .lineStartCrlf => previous.all (· == '\n') || (previous == some '\r' && next != some '\n')
  | .lineEndCrlf => next.all (· == '\r') || (next == some '\n' && previous != some '\r')
  | .wordBoundary => isWordChar previous != isWordChar next
  | .noWordBoundary => isWordChar previous == isWordChar next
  | .wordStart => !isWordChar previous && isWordChar next
  | .wordEnd => isWordChar previous && !isWordChar next
  | .wordStartHalf => !isWordChar previous
  | .wordEndHalf => !isWordChar next

/-- Every place once. Places of one text differ in how much follows them. -/
def distinct (places : List Place) : List Place :=
  places.foldl (fun kept p =>
    if kept.any fun q => q.after.length == p.after.length then kept else kept ++ [p]) []

/-- Where `f` leads from some places. -/
def reach (f : Place → List Place) (places : List Place) : List Place :=
  distinct (places.flatMap f)

/-- Where `f` leads in exactly `n` steps. -/
def exactly (f : Place → List Place) : Nat → List Place → List Place
  | 0, places => places
  | n + 1, places => exactly f n (reach f places)

/-- Where `f` leads in up to `n` steps. -/
def upTo (f : Place → List Place) : Nat → List Place → List Place
  | 0, places => places
  | n + 1, places => distinct (places ++ upTo f n (reach f places))

/-- The places in which matches that start at a place end. Steps of a repetition only lead onwards,
so more steps than characters lead nowhere new. -/
def ends : Pattern → Place → List Place
  | empty, p => [p]
  | one set, p =>
    match p.after with
    | [] => []
    | c :: after => if set.contains c then [⟨c :: p.before, after⟩] else []
  | assertion condition, p => if holdsAt p condition then [p] else []
  | sequence first second, p => reach (ends second) (ends first p)
  | either first second, p => distinct (ends first p ++ ends second p)
  | repeated body least most, p =>
    let bound := p.after.length + 1
    upTo (ends body) (most.elim bound fun most => min bound (most - least))
      (exactly (ends body) (min bound least) [p])

/-- Does a match start at this place, or at a later one? -/
def matchesFrom (pattern : Pattern) (before : List Char) : List Char → Bool
  | [] => !(pattern.ends ⟨before, []⟩).isEmpty
  | c :: after =>
    !(pattern.ends ⟨before, c :: after⟩).isEmpty || matchesFrom pattern (c :: before) after

/-- Is there a match anywhere in the text? -/
def occursIn (pattern : Pattern) (text : String) : Bool := pattern.matchesFrom [] text.toList

end Pattern

end RawReel
