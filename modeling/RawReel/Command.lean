import RawReel.Command.Extract
import RawReel.Command.IndexDocument
import RawReel.Command.Info
import RawReel.CommandLine

/-!
Carrying out what a command line asks for.
-/

namespace RawReel

namespace Command

/-- The paths whose files a command may read. -/
def inputs : Command → List Path
  | info input | index input _ | extract input .. =>
    Chunk.respell input Chunk.firstExtension :: Chunk.continuations input

/-- The paths that a command may write to, or below. -/
def outputs : Command → List Path
  | info _ => []
  | index _ output => output.toList.map IndexDocument.outputPath
  | extract _ output .. => [output]

end Command

namespace CommandLine

/-- Runs the command on the files of a tree. -/
def run (line : CommandLine) (tree : FileTree) : CommandOutcome :=
  match line.command with
  | .info input => Info.run tree line.failLevel input
  | .index input output => IndexDocument.run tree line.failLevel input output
  | .extract input output first count headers =>
    Extract.run tree line.failLevel input output first count headers

end CommandLine

end RawReel
