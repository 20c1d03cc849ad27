import RawReel.Calendar
import RawReel.FileTree
import RawReel.JsonValue.Parse
import RawReel.Text.Blank

/-!
What a build is stamped with: the time of the build, which can be given in place of the clock's, and
the version of the reader library, which is looked up in the description of the packages, or else in
the library's manifest.
-/

namespace RawReel

/-- A time that cannot be used. -/
inductive EpochError
  | empty
  | invalidDigit
  | tooLarge
  | tooSmall
  | outOfRange (text : String)
  deriving DecidableEq

namespace EpochError

def message : EpochError → String
  | empty => "cannot parse integer from empty string"
  | invalidDigit => "invalid digit found in string"
  | tooLarge => "number too large to fit in target type"
  | tooSmall => "number too small to fit in target type"
  | outOfRange text => "SOURCE_DATE_EPOCH out of range: " ++ text

end EpochError

/-- What a build knows about its surroundings. -/
structure BuildSite where
  /-- The time to stamp, in seconds since 1970. -/
  epoch : Option String
  clock : Moment
  /-- The description of the packages, if it could be made. -/
  metadata : Option String
  tree : FileTree

structure BuildStamp where
  time : String
  version : String
  deriving DecidableEq

namespace BuildStamp

/-- Appends decimal digits to a number of at most 64 bits with its sign. The first character that
is no digit, or that makes the number too long, is at fault. -/
def appendDigits (negative : Bool) : (n : Int) → List Char → Except EpochError Int
  | n, [] => .ok n
  | n, c :: rest =>
    if !c.isDigit then .error .invalidDigit
    else
      let d : Int := c.toNat - '0'.toNat
      let longer := if negative then 10 * n - d else 10 * n + d
      if longer < Int64.minValue.toInt then .error .tooSmall
      else if Int64.maxValue.toInt < longer then .error .tooLarge
      else appendDigits negative longer rest

/-- A signed number of 64 bits. -/
def integer (text : String) : Except EpochError Int :=
  match text.toList with
  | [] => .error .empty
  | ['-'] | ['+'] => .error .invalidDigit
  | '-' :: digits => appendDigits true 0 digits
  | '+' :: digits => appendDigits false 0 digits
  | digits => appendDigits false 0 digits

/-- The time that a text gives. -/
def moment (text : String) : Except EpochError Moment := do
  let seconds ← integer text
  if Moment.inRange seconds then return seconds else .error (.outOfRange text)

/-- The library whose version is stamped. -/
def library : String := "rawm"

/-- The version that the description of the packages gives. Only the first package of the name
counts. -/
def versionOfMetadata (metadata : String) : Option String := do
  let packages := ((← JsonValue.parse? metadata).member "packages").items
  let package ← packages.find? fun p => (p.member "name").string? == some library
  (package.member "version").string?

/-- The version on a line of a manifest, if it is given there. -/
def versionOnLine (line : List Char) : Option (List Char) :=
  let key := "version".toList
  let line := Text.trim line
  if key.isPrefixOf line then
    match Text.trimStart (line.drop key.length) with
    | '=' :: value =>
      let quote (c : Char) := c == '"'
      some (Text.dropEndWhile quote ((Text.trim value).dropWhile quote))
    | _ => none
  else none

/-- The version on the first line of a manifest that gives one. -/
def versionOfManifest (manifest : String) : Option String :=
  ((Text.splitLines manifest.toList).findSome? versionOnLine).map String.ofList

def manifestPath : Path := .ofString "rawm/Cargo.toml"

/-- The text of the manifest, if it can be read. -/
def manifest? (tree : FileTree) : Option String := do
  let content ← (tree.readFile manifestPath).toOption
  String.fromUTF8? ⟨content.toArray⟩

def libraryVersion (site : BuildSite) : String :=
  ((site.metadata.bind versionOfMetadata) <|> ((manifest? site.tree).bind versionOfManifest)).getD
    "unknown"

/-- The stamp of a build. -/
def make (site : BuildSite) : Except EpochError BuildStamp := do
  let time ← match site.epoch with
    | some text => moment text
    | none => pure site.clock
  return ⟨Moment.text time, libraryVersion site⟩

/-- The lines that tell the build about its stamp. -/
def lines (stamp : BuildStamp) : List String :=
  ["cargo:rustc-env=BUILD_TIMESTAMP=" ++ stamp.time,
    "cargo:rustc-env=RAWM_VERSION=" ++ stamp.version,
    "cargo:rerun-if-changed=" ++ manifestPath.text]

end BuildStamp

end RawReel
