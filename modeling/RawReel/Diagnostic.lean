import RawReel.Block.Descriptor
import RawReel.Footer
import RawReel.Path
import RawReel.Text.FixedPoint

/-!
What the library reports while it works: events, each with a level, the part of the program it comes
from, and a text. Operations return the events in the order in which they happen; whether and how
they are shown is decided elsewhere.
-/

namespace RawReel

/-- How urgent a report is. -/
inductive Level
  | error
  | warn
  | info
  | debug
  | trace
  deriving DecidableEq

namespace Level

/-- Rises from the most urgent level to the least. -/
def verbosity : Level → Nat
  | error => 1
  | warn => 2
  | info => 3
  | debug => 4
  | trace => 5

/-- A level reaches another one that is as urgent as itself or more. -/
instance : LE Level := ⟨fun a b => a.verbosity ≤ b.verbosity⟩

instance (a b : Level) : Decidable (a ≤ b) := Nat.decLe ..

def name : Level → String
  | error => "ERROR"
  | warn => "WARN"
  | info => "INFO"
  | debug => "DEBUG"
  | trace => "TRACE"

end Level

inductive Diagnostic
  | bytesRead (count file offset : Nat)
  | footerDecoded (footer : Footer)
  | footerFound (footer : Footer)
  | blockIndexed (n : Nat) (descriptor : BlockDescriptor)
  | trailingBytes (count : Nat)
  | indexed (blocks files : Nat)
  | fewerFrames (declared : Int32) (found : Nat)
  | moreFrames (declared : Int32) (found : Nat)
  | dispatching (tag : BlockTag) (length : Nat)
  | continues (index file : Nat)
  | closed
  | chunksFound (count : Nat) (input : Path)
  | analyzing (input : Path)
  | indexWritten (blocks : Nat) (output : Path)
  | extracting (first last : Nat) (output : Path)
  | fileWritten (file : Path) (bytes : Nat)
  | extracted (frames bytes : Nat)
  deriving DecidableEq

namespace Diagnostic

def level : Diagnostic → Level
  | trailingBytes .. | fewerFrames .. => .warn
  | analyzing .. | indexWritten .. | extracting .. | extracted .. => .info
  | footerFound .. | indexed .. | moreFrames .. | closed | chunksFound .. => .debug
  | bytesRead .. | footerDecoded .. | blockIndexed .. | dispatching .. | continues ..
  | fileWritten .. => .trace

/-- The part of the program that reports the event. Filters select by it. -/
def target : Diagnostic → String
  | bytesRead .. => "rawm::utils::file_set"
  | footerDecoded .. => "rawm::structs::footer"
  | footerFound .. => "rawm::process::locate"
  | blockIndexed .. | trailingBytes .. | indexed .. => "rawm::process::index"
  | fewerFrames .. | moreFrames .. | dispatching .. | continues .. | closed =>
    "rawm::process::read"
  | chunksFound .. => "rawmd::input"
  | analyzing .. => "rawmd::cli::info"
  | indexWritten .. => "rawmd::cli::index"
  | extracting .. | fileWritten .. | extracted .. => "rawmd::cli::extract"

def message : Diagnostic → String
  | bytesRead count file offset => s!"read {count} bytes from file {file} at offset {offset}"
  | footerDecoded footer => footer.describe
  | footerFound footer =>
    s!"Footer: {footer.width}x{footer.height}, {footer.frameSize} bytes/frame, "
      ++ s!"{footer.frameCount} frames declared, " ++ Text.fixedFloat 3 footer.fps ++ " fps"
  | blockIndexed n descriptor => s!"block {n}: " ++ descriptor.describe
  | trailingBytes count => s!"Ignoring {count} trailing bytes before the footer"
  | indexed blocks files => s!"Indexed {blocks} blocks across {files} files"
  | fewerFrames declared found => (FormatError.frameCountMismatch declared found).message
  | moreFrames declared found => s!"Footer declares {declared} frames, indexed {found}"
  | dispatching tag length => s!"dispatching {BlockTag.text tag} ({length} bytes)"
  | continues index file => s!"block {index} continues in file {file}"
  | closed => "Closed recording"
  | chunksFound count input => s!"Found {count} chunk(s) for " ++ input.text
  | analyzing input => "Analyzing RAW recording: " ++ input.text
  | indexWritten blocks output => s!"Wrote {blocks} blocks to " ++ output.text
  | extracting first last output => s!"Extracting frames {first}..{last} to " ++ output.text
  | fileWritten file bytes => "Wrote " ++ file.text ++ s!" ({bytes} bytes)"
  | extracted frames bytes => s!"Wrote {frames} frames ({bytes} bytes)"

end Diagnostic

/-- Events in the order in which they happened. -/
abbrev Log := List Diagnostic

/-- A value, and what was reported on the way to it. -/
structure Logged (α : Type) where
  value : α
  log : Log

end RawReel
