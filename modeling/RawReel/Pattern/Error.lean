/-!
What can be wrong with a regular expression: the fault, where it is, and the text that shows both.
-/

namespace RawReel

inductive PatternFault
  | backreference
  | caseUnavailable
  | classUnavailable
  | countEmpty
  | countInvalid
  | countUnclosed
  | decimalInvalid
  | escapeInSet
  | escapeUnfinished
  | escapeUnknown
  | flagDangling
  | flagDuplicate
  | flagNegatedTwice
  | flagUnfinished
  | flagUnknown
  | groupUnclosed
  | groupUnopened
  | hexDigitInvalid
  | hexEmpty
  | hexInvalid
  | lookAround
  | nameDuplicate
  | nameEmpty
  | nameInvalid
  | nameUnfinished
  | outsideUtf8
  | propertyInvalid
  | propertyUnknown
  | propertyValueUnknown
  | rangeBoundary
  | rangeInvalid
  | repetitionMissing
  | setUnclosed
  | unicodeForbidden
  | wordAssertionUnclosed
  | wordAssertionUnfinished
  | wordAssertionUnknown
  deriving DecidableEq

namespace PatternFault

def text : PatternFault → String
  | backreference => "backreferences are not supported"
  | caseUnavailable =>
    "Unicode-aware case insensitivity matching is not available "
      ++ "(make sure the unicode-case feature is enabled)"
  | classUnavailable =>
    "Unicode-aware Perl class not found (make sure the unicode-perl feature is enabled)"
  | countEmpty => "repetition quantifier expects a valid decimal"
  | countInvalid => "invalid repetition count range, the start must be <= the end"
  | countUnclosed => "unclosed counted repetition"
  | decimalInvalid => "decimal literal invalid"
  | escapeInSet => "invalid escape sequence found in character class"
  | escapeUnfinished => "incomplete escape sequence, reached end of pattern prematurely"
  | escapeUnknown => "unrecognized escape sequence"
  | flagDangling => "dangling flag negation operator"
  | flagDuplicate => "duplicate flag"
  | flagNegatedTwice => "flag negation operator repeated"
  | flagUnfinished => "expected flag but got end of regex"
  | flagUnknown => "unrecognized flag"
  | groupUnclosed => "unclosed group"
  | groupUnopened => "unopened group"
  | hexDigitInvalid => "invalid hexadecimal digit"
  | hexEmpty => "hexadecimal literal empty"
  | hexInvalid => "hexadecimal literal is not a Unicode scalar value"
  | lookAround => "look-around, including look-ahead and look-behind, is not supported"
  | nameDuplicate => "duplicate capture group name"
  | nameEmpty => "empty capture group name"
  | nameInvalid => "invalid capture group character"
  | nameUnfinished => "unclosed capture group name"
  | outsideUtf8 => "pattern can match invalid UTF-8"
  | propertyInvalid => "invalid Unicode character class"
  | propertyUnknown => "Unicode property not found"
  | propertyValueUnknown => "Unicode property value not found"
  | rangeBoundary => "invalid range boundary, must be a literal"
  | rangeInvalid => "invalid character class range, the start must be <= the end"
  | repetitionMissing => "repetition operator missing expression"
  | setUnclosed => "unclosed character class"
  | unicodeForbidden => "Unicode not allowed here"
  | wordAssertionUnclosed =>
    "special word boundary assertion is either unclosed or contains an invalid character"
  | wordAssertionUnfinished =>
    "found either the beginning of a special word boundary or a bounded repetition on a \\b with "
      ++ "an opening brace, but no closing brace"
  | wordAssertionUnknown =>
    "unrecognized special word boundary assertion, valid choices are: start, end, start-half or "
      ++ "end-half"

end PatternFault

/-- Characters of an expression, from the first of them up to the one after the last. -/
structure Span where
  first : Nat
  last : Nat
  deriving DecidableEq

inductive PatternError
  /-- A fault in what is written at some places, the first of them first. -/
  | written (fault : PatternFault) (places : List Span)
  /-- Words of more than ASCII letters cannot be told apart. -/
  | wordsUnavailable
  deriving DecidableEq

namespace PatternError

/-- Marks under places of a line, of which `column` characters have been passed. -/
def marks : (column : Nat) → List Span → List Char
  | _, [] => []
  | column, place :: places =>
    let width := max 1 (place.last - place.first)
    List.replicate (place.first - column) ' ' ++ List.replicate width '^'
      ++ marks (max column place.first + width) places

/-- The expression with the places at fault marked under it. -/
def message (source : String) : PatternError → String
  | written fault places =>
    "regex parse error:\n    " ++ source ++ "\n    " ++ String.ofList (marks 0 places)
      ++ "\nerror: " ++ fault.text
  | wordsUnavailable => "error building NFA"

end PatternError

end RawReel
