import RawReel.JsonValue
import RawReel.Text.Digits

/-!
Reading JSON texts strictly: one value and nothing else, no comma without a value after it, no
control characters and no half surrogate pairs in strings, and numbers that a double can hold.
Values may be nested 127 deep.
-/

namespace RawReel.JsonValue

/-- What is read, and what follows it; nothing if the text is not as it has to be. -/
abbrev Parser (α : Type) := StateT (List Char) Option α

def skipBlanks : Parser Unit :=
  modify fun s => s.dropWhile fun c => c == ' ' || c == '\n' || c == '\r' || c == '\t'

def next : Parser Char := fun s =>
  match s with
  | c :: rest => some (c, rest)
  | [] => none

def peek : Parser (Option Char) := return (← get).head?

def expect (word : List Char) : Parser Unit := fun s =>
  if word.isPrefixOf s then some ((), s.drop word.length) else none

/-- Passes over a character if it comes next, and tells whether it did. -/
def accept (c : Char) : Parser Bool := do
  if (← peek) = some c then let _ ← next; return true
  else return false

/-- Passes over the next character if it is one of these, and tells whether it did. -/
def acceptOneOf (cs : List Char) : Parser Bool := do
  if (← peek).any cs.contains then let _ ← next; return true
  else return false

/-- Four hexadecimal digits. -/
def unit : Parser Nat := do
  let mut n := 0
  for _ in [0, 1, 2, 3] do
    n := 16 * n + (← Text.hexDigit? (← next))
  return n

/-- A character given by one number, or by the two halves of a surrogate pair. -/
def unicodeEscape : Parser Char := do
  let first ← unit
  if 0xD800 ≤ first ∧ first ≤ 0xDBFF then
    expect ['\\', 'u']
    let second ← unit
    if 0xDC00 ≤ second ∧ second ≤ 0xDFFF then
      return Char.ofNat (0x10000 + (first - 0xD800) * 0x400 + (second - 0xDC00))
    else failure
  else if 0xDC00 ≤ first ∧ first ≤ 0xDFFF then failure
  else return Char.ofNat first

/-- What follows a backslash. -/
def escape : Parser Char := do
  match ← next with
  | '"' => return '"'
  | '\\' => return '\\'
  | '/' => return '/'
  | 'b' => return '\x08'
  | 'f' => return '\x0c'
  | 'n' => return '\n'
  | 'r' => return '\r'
  | 't' => return '\t'
  | 'u' => unicodeEscape
  | _ => failure

/-- The rest of a string after its opening quote; `back` was read, last character first. -/
def stringRest : (fuel : Nat) → (back : List Char) → Parser String
  | 0, _ => failure
  | fuel + 1, back => do
    match ← next with
    | '"' => return String.ofList back.reverse
    | '\\' => stringRest fuel ((← escape) :: back)
    | c => if c.toNat < 0x20 then failure else stringRest fuel (c :: back)

def digits : Parser (List Char) := do
  let digits := (← get).takeWhile Char.isDigit
  modify (·.drop digits.length)
  return digits

def digits1 : Parser (List Char) := do
  let found ← digits
  if found.isEmpty then failure else return found

/-- Is `m * 10 ^ e` below the least number that rounds to no finite double? -/
def isFinite (m : Nat) (e : Int) : Bool :=
  let bound := Nat.pow 2 1024 - Nat.pow 2 970
  if m = 0 then true
  else if 400 < e then false
  else if 0 ≤ e then m * Nat.pow 10 e.toNat < bound
  else if (toString m).length + e < 300 then true
  else m < bound * Nat.pow 10 (-e).toNat

/-- The digits in front of a point: a zero stands alone. -/
def wholeDigits : Parser (List Char) := do
  if ← accept '0' then return ['0'] else digits1

def fractionDigits : Parser (List Char) := do
  if ← accept '.' then digits1 else return []

def exponent : Parser Int := do
  if ← acceptOneOf ['e', 'E'] then
    let negative ← accept '-'
    if !negative then let _ ← accept '+'
    let n := Text.ofDecimal (← digits1)
    return if negative then -(n : Int) else n
  else return 0

def numberRest : Parser JsonValue := do
  let _ ← accept '-'
  let whole ← wholeDigits
  let fraction ← fractionDigits
  let exponent ← exponent
  if isFinite (Text.ofDecimal (whole ++ fraction)) (exponent - fraction.length) then return .number
  else failure

mutual

/-- A value that holds values nested less than `depth` deep. -/
def value : (fuel : Nat) → (depth : Nat) → Parser JsonValue
  | 0, _ => failure
  | fuel + 1, depth => do
    skipBlanks
    match ← peek with
    | some 'n' => expect ['n', 'u', 'l', 'l']; return .null
    | some 't' => expect ['t', 'r', 'u', 'e']; return .bool true
    | some 'f' => expect ['f', 'a', 'l', 's', 'e']; return .bool false
    | some '"' => let _ ← next; return .string (← stringRest fuel [])
    | some '[' =>
      let _ ← next
      if depth ≤ 1 then failure
      skipBlanks
      if ← accept ']' then return .array []
      return .array (← elements fuel (depth - 1))
    | some '\x7b' =>
      let _ ← next
      if depth ≤ 1 then failure
      skipBlanks
      if ← accept '\x7d' then return .object []
      return .object (← members fuel (depth - 1))
    | _ => numberRest

/-- The values of an array, up to its closing bracket. -/
def elements : (fuel : Nat) → (depth : Nat) → Parser (List JsonValue)
  | 0, _ => failure
  | fuel + 1, depth => do
    let first ← value fuel depth
    skipBlanks
    if ← accept ',' then return first :: (← elements fuel depth)
    expect [']']
    return [first]

/-- The members of an object, up to its closing brace. -/
def members : (fuel : Nat) → (depth : Nat) → Parser (List (String × JsonValue))
  | 0, _ => failure
  | fuel + 1, depth => do
    skipBlanks
    expect ['"']
    let name ← stringRest fuel []
    skipBlanks
    expect [':']
    let first ← value fuel depth
    skipBlanks
    if ← accept ',' then return (name, first) :: (← members fuel depth)
    expect ['\x7d']
    return [(name, first)]

end

/-- The value of a JSON text. Every step of reading it takes a character or goes one deeper. -/
def parse? (text : String) : Option JsonValue :=
  let read : Parser JsonValue := do
    let v ← value (2 * text.length + 2) 128
    skipBlanks
    return v
  match read text.toList with
  | some (v, []) => some v
  | _ => none

end RawReel.JsonValue
