import RawReel.Chunk
import RawReel.Command.Outcome
import RawReel.Reader

/-!
Extraction: each frame of a range goes to a file of its own, and the headers too if they are asked
for. Chunks that lie in the output directory may be overwritten on the way; what is read later is
what was written, since the files are looked at again after each of them.
-/

namespace RawReel

/-- Writes every block it is given to a file. -/
structure FrameWriter where
  tree : FileTree
  output : Path
  writesHeaders : Bool
  framesWritten : Nat
  bytesWritten : Nat

namespace FrameWriter

def frameName (n : Nat) : List Char := ("frame_" ++ Text.paddedNat 6 n ++ ".raw").toList

def headerName (tag : BlockTag) : List Char := ("header." ++ tag.text.map Char.toLower).toList

/-- Writes one file into the output directory. -/
def writeFile (w : FrameWriter) (name : List Char) (content : Bytes) : Handled FrameWriter :=
  let path := w.output.join name
  match w.tree.writeFile path content with
  | .error e => ⟨w, .error ⟨"Failed to create " ++ path.text, [e.text]⟩, []⟩
  | .ok tree =>
    ⟨{ w with tree, bytesWritten := w.bytesWritten + content.length }, .ok (),
      [.fileWritten path content.length]⟩

/-- Counts a frame that was written. -/
def countFrame (handled : Handled FrameWriter) : Handled FrameWriter :=
  match handled.outcome with
  | .error _ => handled
  | .ok _ =>
    { handled with
      handler := { handled.handler with framesWritten := handled.handler.framesWritten + 1 } }

instance : BlockHandler FrameWriter where
  handle w block :=
    match block.header with
    | .videoFrame header => countFrame (w.writeFile (frameName header.frameNumber.toNat) block.data)
    | header =>
      if w.writesHeaders then w.writeFile (headerName header.tag) header.encode
      else ⟨w, .ok (), []⟩

end FrameWriter

namespace Extract

/-- The frames to extract, as the first of them and the one after the last, out of `total`. -/
def range (first : Nat) (count : Option Nat) (total : Nat) : Except Failure (Nat × Nat) :=
  if total ≤ first then .error ⟨s!"First frame {first} is out of range ({total} frames)", []⟩
  else .ok (first, count.elim total fun n => min (first + n) total)

section
variable {σ : Type} [ByteStream σ] (look : FileTree → σ → σ)

/-- The reader whose streams are looked at again after what the handler wrote. -/
def refresh (r : Reader σ FrameWriter) : Reader σ FrameWriter :=
  r.mapStreams (look r.handler.tree)

/-- Reads `count` blocks from the cursor on, or as many as there are. -/
def readBlocks (r : Reader σ FrameWriter) : (count : Nat) → Step σ FrameWriter Unit
  | 0 => ⟨r, .ok (), []⟩
  | count + 1 =>
    r.readNext.andThen fun more read =>
      if more then readBlocks (refresh look read) count else ⟨read, .ok (), []⟩

/-- Extracts a range of frames through an open reader, and closes it. -/
def extractRange (r : Reader σ FrameWriter) (first last : Nat) : CommandOutcome :=
  let announced : Diagnostic := .extracting first last r.handler.output
  let step := readBlocks look (r.setCursor first) (last - first)
  match step.result with
  | .error e => ⟨step.reader.handler.tree, "", announced :: step.log, .error (.read e)⟩
  | .ok _ =>
    let closed := step.reader.close
    let w := closed.value.handler
    ⟨w.tree, "",
      announced :: step.log ++ closed.log ++ [.extracted w.framesWritten w.bytesWritten], .ok ()⟩

/-- Extracts frames of a recording whose files are open. -/
def fromFiles (failLevel : Level) (files : FileSet σ) (writer : FrameWriter) (first : Nat)
    (count : Option Nat) : CommandOutcome :=
  let opening := Reader.openWith failLevel files writer
  match opening.result with
  | .error e => ⟨opening.handler.tree, "", opening.log, .error (.read e)⟩
  | .ok reader =>
    match range first count reader.blockCount with
    | .error e => ⟨reader.handler.tree, "", opening.log, .error (.own e)⟩
    | .ok (first, last) =>
      let outcome := extractRange look (refresh look reader) first last
      { outcome with log := opening.log ++ outcome.log }

end

/-- Extracts frames of the recording that `input` is a chunk of. -/
def run (tree : FileTree) (failLevel : Level) (input output : Path) (first : Nat)
    (count : Option Nat) (headers : Bool) : CommandOutcome :=
  match tree.makeDirectories output with
  | (tree, .error e) =>
    ⟨tree, "", [],
      .error (.own ⟨"Failed to create output directory " ++ output.text, [e.text]⟩)⟩
  | (tree, .ok _) =>
    let opened := Chunk.openRecording tree input
    match opened.value with
    | .error e => ⟨tree, "", opened.log, .error (.own e)⟩
    | .ok recording =>
      let outcome := fromFiles OpenFile.refresh failLevel recording.files
        ⟨tree, output, headers, 0, 0⟩ first count
      { outcome with log := opened.log ++ outcome.log }

end Extract

end RawReel
