import RawReel.Text.Digits

/-!
Text as the value of a YAML mapping. The value is written plainly where that reads back as the same
text; otherwise it is quoted, and text with line feeds becomes a literal block where it can. Values
here never end in a line break, so the break that ends a literal block is stripped.
-/

namespace RawReel.Text.Yaml

def isBreak (c : Char) : Bool :=
  c == '\n' || c == '\r' || c == '\u0085' || c == '\u2028' || c == '\u2029'

/-- Blanks, breaks, and the end of the text separate what stands before them from what follows. -/
def separates : Option Char → Bool
  | none => true
  | some c => c == ' ' || c == '\t' || c == '\x00' || isBreak c

/-- May the character stand unescaped? Tabs, other controls, the byte order mark and everything
outside the basic plane may not. -/
def isPrintable (c : Char) : Bool :=
  let n := c.toNat
  c == '\n' || (0x20 ≤ n && n ≤ 0x7E) || (0xA0 ≤ n && n ≤ 0xFFFD && n != 0xFEFF)

/-- Characters that give a value another meaning when it starts with them. -/
def indicators : List Char :=
  ['#', ',', '[', ']', '\x7b', '\x7d', '&', '*', '!', '|', '>', '\'', '"', '%', '@', '\x60']

/-- Does the text start like something other than plain text? -/
def startsSpecially : List Char → Bool
  | '-' :: '-' :: '-' :: _ => true
  | '.' :: '.' :: '.' :: _ => true
  | c :: rest =>
    indicators.contains c || ((c == '?' || c == ':' || c == '-') && separates rest.head?)
  | [] => false

/-- Does a colon end a key, or a number sign start a comment, after the first character? -/
def breaksOff : List Char → Bool
  | before :: c :: rest =>
    (c == ':' && separates rest.head?) || (c == '#' && separates (some before))
      || breaksOff (c :: rest)
  | _ => false

/-- Do two characters stand next to each other, of which the first has one property and the second
another? -/
def adjacent (first second : Char → Bool) (s : List Char) : Bool :=
  (s.zip s.tail).any fun (a, b) => first a && second b

def isSpace (c : Char) : Bool := c == ' '

def allowsPlain (s : List Char) : Bool :=
  !startsSpecially s && !breaksOff s && s.head?.all (!isSpace ·) && s.getLast?.all (!isSpace ·)
    && s.all fun c => isPrintable c && !isBreak c

def allowsSingleQuotes (s : List Char) : Bool :=
  s.all isPrintable && !adjacent isBreak isSpace s && !adjacent isSpace isBreak s

def allowsLiteral (s : List Char) : Bool :=
  s.all isPrintable && !adjacent isSpace isBreak s && s.getLast?.any (!isSpace ·)

inductive Style
  | plain
  | singleQuoted
  | doubleQuoted
  | literal
  deriving DecidableEq

/-- The style that a value is written in. -/
def styleOf (s : List Char) : Style :=
  if s.contains '\n' then if allowsLiteral s then .literal else .doubleQuoted
  else if allowsPlain s then .plain
  else if allowsSingleQuotes s then .singleQuoted
  else .doubleQuoted

/-- What an escape starts with after the backslash, for characters with a name. -/
def escapeName : Char → Option Char
  | '\x00' => some '0'
  | '\x07' => some 'a'
  | '\x08' => some 'b'
  | '\t' => some 't'
  | '\n' => some 'n'
  | '\x0b' => some 'v'
  | '\x0c' => some 'f'
  | '\r' => some 'r'
  | '\x1b' => some 'e'
  | '"' => some '"'
  | '\\' => some '\\'
  | '\u0085' => some 'N'
  | '\u2028' => some 'L'
  | '\u2029' => some 'P'
  | _ => none

/-- A character between double quotes. -/
def escape (c : Char) : List Char :=
  match escapeName c with
  | some name => ['\\', name]
  | none =>
    let n := c.toNat
    if isPrintable c then [c]
    else if n ≤ 0xFF then '\\' :: 'x' :: upperHex 2 n
    else if n ≤ 0xFFFF then '\\' :: 'u' :: upperHex 4 n
    else '\\' :: 'U' :: upperHex 8 n

/-- Text in which what follows a break is indented, each character spelled by `spell`. -/
def indented (indent : Nat) (spell : Char → List Char) : (afterBreak : Bool) → List Char → List Char
  | _, [] => []
  | afterBreak, c :: rest =>
    if isBreak c then c :: indented indent spell true rest
    else
      (if afterBreak then List.replicate indent ' ' else []) ++ spell c
        ++ indented indent spell false rest

/-- A quote inside single quotes is written twice. -/
def doubleQuote (c : Char) : List Char := if c == '\'' then ['\'', '\''] else [c]

/-- A literal block that starts with a space or a break has to say how far it is indented, relative
to the mapping around it. -/
def indentHint (s : List Char) : List Char :=
  if s.head?.any fun c => isSpace c || isBreak c then ['2'] else []

/-- A value whose lines, where it has several, are indented by `indent`. -/
def value (indent : Nat) (s : List Char) : List Char :=
  match styleOf s with
  | .plain => s
  | .singleQuoted => '\'' :: indented indent doubleQuote false s ++ ['\'']
  | .doubleQuoted => '"' :: s.flatMap escape ++ ['"']
  | .literal => '|' :: indentHint s ++ '-' :: '\n' :: indented indent ([·]) true s

end RawReel.Text.Yaml
