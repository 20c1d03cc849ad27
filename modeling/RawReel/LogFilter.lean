import RawReel.CommandLine
import RawReel.Pattern.Parse
import RawReel.Text.Blank

/-!
Which reports are shown. A filter is a list of thresholds, each for the parts of the program whose
names start in a given way or for all of them, and perhaps a pattern that texts have to match. The
threshold with the longest name that fits decides.
-/

namespace RawReel

/-- A threshold for the targets that start with a name, or for all. -/
structure Directive where
  name : Option (List Char)
  threshold : Threshold
  deriving DecidableEq

structure LogFilter where
  /-- No two of them are for the same name. -/
  directives : List Directive
  pattern : Option Pattern

/-- A part of a filter's specification that cannot be followed. -/
inductive FilterWarning
  | tooManySlashes (spec : String)
  | badSpec (part : String)
  | badPattern (source : String) (cause : PatternError)
  deriving DecidableEq

namespace FilterWarning

def message : FilterWarning → String
  | tooManySlashes spec => "invalid logging spec '" ++ spec ++ "' (too many '/'s)"
  | badSpec part => "invalid logging spec '" ++ part ++ "'"
  | badPattern source cause => "invalid regex filter - " ++ cause.message source

/-- The line that warns of it. -/
def line (w : FilterWarning) : String := "warning: " ++ w.message ++ ", ignoring it"

end FilterWarning

namespace LogFilter

def empty : LogFilter := ⟨[], none⟩

/-- Adds a directive, in place of an earlier one for the same name. -/
def insert (filter : LogFilter) (directive : Directive) : LogFilter :=
  if filter.directives.any (·.name == directive.name) then
    { filter with directives := filter.directives.map fun d =>
        if d.name == directive.name then directive else d }
  else { filter with directives := filter.directives ++ [directive] }

/-- Sets the threshold of all parts that have none of their own. -/
def setDefault (filter : LogFilter) (threshold : Threshold) : LogFilter :=
  filter.insert ⟨none, threshold⟩

/-- The threshold that a word names, in any letter case. -/
def threshold? (word : List Char) : Option Threshold :=
  Threshold.words.lookup (String.ofList (word.map Char.toLower))

/-- Reads one directive: a threshold, a name, or a name and its threshold. -/
def readDirective (part : List Char) : Except FilterWarning Directive :=
  match part.splitOn '=' with
  | [word] =>
    match threshold? word with
    | some threshold => .ok ⟨none, threshold⟩
    | none => .ok ⟨some word, some .trace⟩
  | [name, word] =>
    let word := Text.trim word
    match threshold? word with
    | some threshold => .ok ⟨some name, threshold⟩
    | none =>
      if word = [] then .ok ⟨some name, some .trace⟩ else .error (.badSpec (String.ofList word))
  | _ => .error (.badSpec (String.ofList part))

/-- Reads the directives of a list, and tells which parts of it cannot be followed. -/
def readDirectives (filter : LogFilter) :
    List (List Char) → LogFilter × List FilterWarning
  | [] => (filter, [])
  | part :: parts =>
    match readDirective part with
    | .ok directive => readDirectives (filter.insert directive) parts
    | .error w =>
      let (after, warnings) := readDirectives filter parts
      (after, w :: warnings)

/-- Reads a specification: directives separated by commas, then perhaps a slash and a pattern. -/
def parse (spec : String) : LogFilter × List FilterWarning :=
  let directives (list : List Char) :=
    readDirectives empty (((list.splitOn ',').map Text.trim).filter (· ≠ []))
  match spec.toList.splitOn '/' with
  | [list] => directives list
  | [list, source] =>
    let (filter, warnings) := directives list
    let source := String.ofList source
    match Pattern.parse source with
    | .ok pattern => ({ filter with pattern := some pattern }, warnings)
    | .error e => (filter, warnings ++ [.badPattern source e])
  | _ => (empty, [.tooManySlashes spec])

/-- Bytes of a directive's name. -/
def nameLength (d : Directive) : Nat := d.name.elim 0 fun name => (String.ofList name).utf8ByteSize

def appliesTo (target : String) (d : Directive) : Bool :=
  d.name.all fun name => name.isPrefixOf target.toList

/-- The threshold of a target: that of the longest name it starts with. Of names of one length, the
later one counts. -/
def thresholdOf (filter : LogFilter) (target : String) : Threshold :=
  let ordered := filter.directives.mergeSort fun a b => nameLength a ≤ nameLength b
  ((ordered.reverse.find? (appliesTo target)).map (·.threshold)).getD none

/-- Is a report shown? -/
def admits (filter : LogFilter) (d : Diagnostic) : Bool :=
  (filter.thresholdOf d.target).admits d.level
    && filter.pattern.all fun pattern => pattern.occursIn d.message

end LogFilter

end RawReel
