import RawReel.CommandLine

/-!
Reading a command line, argument by argument. Options that go for every command may stand before
the command or after it; the later ones count. The value of an option, or the input, is checked when
the argument after it has been recognised, so an unknown argument is noticed first.
-/

namespace RawReel.CommandLine

/-- Which part of a command line is read: what stands before the command, or what follows it. -/
inductive Scope
  | top
  | info
  | index
  | extract
  deriving DecidableEq

/-- What takes a value: the input, or an option. -/
inductive Slot
  | input
  | threshold
  | format
  | output
  | directory
  | first
  | count
  deriving DecidableEq

inductive Flag
  | strict
  | progress
  | headers
  deriving DecidableEq

/-- What a name on the command line stands for. -/
inductive Meaning
  | value (slot : Slot)
  | flag (flag : Flag)
  | help
  | version
  deriving DecidableEq

namespace Scope

def commands : List (String × Scope) := [("info", info), ("index", index), ("extract", extract)]

/-- The command that a word names. -/
def ofWord? (word : String) : Option Scope := commands.lookup word

/-- The word that asks for help on a command. -/
def helpWord : String := "help"

def isCommandWord (word : String) : Bool := word == helpWord || (ofWord? word).isSome

/-- Options of every scope. -/
def commonOptions : List (String × Meaning) :=
  [("loglevel", .value .threshold), ("strict", .flag .strict), ("log-format", .value .format),
    ("progress", .flag .progress), ("help", .help)]

def longOptions (scope : Scope) : List (String × Meaning) :=
  match scope with
  | top => ("version", .version) :: commonOptions
  | info => commonOptions
  | index => ("output", .value .output) :: commonOptions
  | extract =>
    [("output-path", .value .directory), ("first", .value .first), ("count", .value .count),
      ("headers", .flag .headers)] ++ commonOptions

def shortOptions (scope : Scope) : List (Char × Meaning) :=
  match scope with
  | top => [('h', .help), ('V', .version)]
  | index => [('h', .help), ('o', .value .output)]
  | info | extract => [('h', .help)]

end Scope

/-- What a scope has been given so far. -/
structure Given where
  flags : List Flag
  threshold : Option Threshold
  format : Option LogFormat
  input : Option Path
  output : Option Path
  directory : Option Path
  first : Option Nat
  count : Option Nat

namespace Given

def nothing : Given := ⟨[], none, none, none, none, none, none, none⟩

def has (given : Given) : Slot → Bool
  | .input => given.input.isSome
  | .threshold => given.threshold.isSome
  | .format => given.format.isSome
  | .output => given.output.isSome
  | .directory => given.directory.isSome
  | .first => given.first.isSome
  | .count => given.count.isSome

/-- Does it hold anything that the user wrote? -/
def isEmpty (given : Given) : Bool :=
  given.flags.isEmpty && !given.has .threshold && !given.has .format

def formatWords : List (String × LogFormat) := [("plain", .plain), ("json", .json)]

/-- One of a list of words. -/
def ofWords {α : Type} (words : List (String × α)) (word : String) : Except UsageError α :=
  match words.lookup word with
  | some value => .ok value
  | none => .error .invalidValue

/-- A path has at least one character. -/
def path (word : String) : Except UsageError Path :=
  if word.isEmpty then .error .invalidValue else .ok (.ofString word)

/-- A number of at most 64 bits; a plus sign may stand before it. -/
def number (word : String) : Except UsageError Nat :=
  let digits := match word.toList with
    | '+' :: rest => rest
    | chars => chars
  if digits.isEmpty || !digits.all Char.isDigit then .error .invalidNumber
  else
    let n := Text.ofDecimal digits
    if n < UInt64.size then .ok n else .error .invalidNumber

/-- Fills a slot, once. -/
def fill (given : Given) (slot : Slot) (word : String) : Except UsageError Given := do
  if given.has slot then .error .repeatedArgument
  else
    match slot with
    | .input => return { given with input := some (← path word) }
    | .threshold => return { given with threshold := some (← ofWords Threshold.words word) }
    | .format => return { given with format := some (← ofWords formatWords word) }
    | .output => return { given with output := some (← path word) }
    | .directory => return { given with directory := some (← path word) }
    | .first => return { given with first := some (← number word) }
    | .count => return { given with count := some (← number word) }

/-- Sets a flag, once. -/
def set (given : Given) (flag : Flag) : Except UsageError Given :=
  if given.flags.contains flag then .error .repeatedArgument
  else .ok { given with flags := flag :: given.flags }

end Given

/-- An argument that was recognised but not yet checked. -/
inductive Pending
  | none
  /-- An option whose value has not come. -/
  | awaiting (slot : Slot)
  | holding (slot : Slot) (word : String)

/-- How far a scope was read. -/
structure Reading where
  given : Given
  pending : Pending
  /-- Whether the input has been seen. -/
  inputSeen : Bool

namespace Reading

def start : Reading := ⟨.nothing, .none, false⟩

/-- Checks the argument that was held back. -/
def settle (r : Reading) : Except UsageError Reading := do
  match r.pending with
  | .none => return r
  | .awaiting _ => .error .invalidValue
  | .holding slot word => return { r with given := ← r.given.fill slot word, pending := .none }

/-- An option with a value attached to it, or in the next argument. -/
def option (r : Reading) (slot : Slot) (attached : Option String) : Except UsageError Reading := do
  let r ← r.settle
  match attached with
  | some word => return { r with given := ← r.given.fill slot word }
  | none => return { r with pending := .awaiting slot }

/-- An option without a value. -/
def flag (r : Reading) (flag : Flag) : Except UsageError Reading := do
  let r ← r.settle
  return { r with given := ← r.given.set flag }

/-- Help and the version end the reading, unless the argument before is at fault. -/
def ask (r : Reading) (wish : UsageError) : Except UsageError Reading := do
  let _ ← r.settle
  .error wish

/-- A name with two dashes, and perhaps a value after an equals sign. -/
def long (r : Reading) (scope : Scope) (name : String) (attached : Option String) :
    Except UsageError Reading :=
  match scope.longOptions.lookup name with
  | none => .error .unknownArgument
  | some (.value slot) => r.option slot attached
  | some option =>
    if attached.isSome then .error .unexpectedValue
    else
      match option with
      | .flag flag => r.flag flag
      | .version => r.ask .version
      | _ => r.ask .help

/-- Letters after one dash. A letter that takes a value takes the rest, less an equals sign. -/
def short (r : Reading) (scope : Scope) : List Char → Except UsageError Reading
  | [] => .ok r
  | letter :: rest =>
    match scope.shortOptions.lookup letter with
    | none => .error .unknownArgument
    | some (.value slot) =>
      match rest with
      | [] => r.option slot none
      | '=' :: word => r.option slot (some (String.ofList word))
      | word => r.option slot (some (String.ofList word))
    | some (.flag flag) => do (← r.flag flag).short scope rest
    | some .help => r.ask .help
    | some .version => r.ask .version

/-- An argument that is no option. Before the command only a command may stand. -/
def positional (r : Reading) (scope : Scope) (afterDashes : Bool) (word : String) :
    Except UsageError Reading := do
  if scope = .top then
    if afterDashes && Scope.isCommandWord word then .error .unknownArgument
    else .error .unknownCommand
  else if r.inputSeen then .error .unknownArgument
  else
    let r ← r.settle
    return { r with pending := .holding .input word, inputSeen := true }

end Reading

/-- Splits an option at its first equals sign. -/
def splitAttached (cs : List Char) : String × Option String :=
  let name := String.ofList (cs.takeWhile (· != '='))
  match cs.dropWhile (· != '=') with
  | [] => (name, none)
  | _ :: word => (name, some (String.ofList word))

/-- Reads the arguments of a scope, up to a command if it is the top. Two dashes alone end the
options. -/
def scan (scope : Scope) :
    (afterDashes : Bool) → Reading → List String →
      Except UsageError (Reading × Option (String × List String))
  | _, r, [] => .ok (r, none)
  | true, r, word :: rest => do scan scope true (← r.positional scope true word) rest
  | false, r, word :: rest => do
    let awaited := match r.pending with
      | .awaiting slot => some slot
      | _ => none
    if scope = .top ∧ awaited = none ∧ Scope.isCommandWord word then return (r, some (word, rest))
    else
      match word.toList, awaited with
      | ['-', '-'], _ => scan scope true r rest
      | '-' :: '-' :: option, _ =>
        let (name, attached) := splitAttached option
        scan scope false (← r.long scope name attached) rest
      | '-' :: c :: letters, _ => scan scope false (← r.short scope (c :: letters)) rest
      | _, some slot => scan scope false { r with pending := .holding slot word } rest
      | _, none => scan scope false (← r.positional scope false word) rest

/-- What was given for a command, as the command. -/
def toCommand (scope : Scope) (given : Given) : Except UsageError Command := do
  match scope, given.input with
  | .top, _ => .error .missingCommand
  | _, none => .error .missingArgument
  | .info, some input => return .info input
  | .index, some input => return .index input given.output
  | .extract, some input =>
    match given.directory with
    | none => .error .missingArgument
    | some directory =>
      return .extract input directory (given.first.getD 0) given.count
        (given.flags.contains .headers)

/-- Help is asked for on nothing, or on one command. -/
def helpOn (words : List String) : UsageError :=
  match words with
  | [] => .help
  | [word] => if Scope.isCommandWord word then .help else .unknownCommand
  | _ => .unknownCommand

/-- The whole command line. What follows the command is checked before the last option in front of
it. -/
def parse (args : List String) : Except UsageError CommandLine := do
  match ← scan .top false .start args with
  | (r, none) =>
    let r ← r.settle
    .error (if r.given.isEmpty then .nothingGiven else .missingCommand)
  | (outer, some (word, rest)) =>
    match Scope.ofWord? word with
    | none => .error (helpOn rest)
    | some scope =>
      let (inner, _) ← scan scope false .start rest
      let inner ← inner.settle
      let command ← toCommand scope inner.given
      let outer ← outer.settle
      let has (flag : Flag) := inner.given.flags.contains flag || outer.given.flags.contains flag
      return {
        threshold := (inner.given.threshold <|> outer.given.threshold).getD (some .info)
        format := (inner.given.format <|> outer.given.format).getD .plain
        strict := has .strict
        progress := has .progress
        command }

end RawReel.CommandLine
