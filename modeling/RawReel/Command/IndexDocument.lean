import RawReel.Chunk
import RawReel.Command.Outcome
import RawReel.Reader
import RawReel.Text.Yaml

/-!
The block index as a YAML document: the frames of a recording, its files, and where each block is.
-/

namespace RawReel

structure IndexDocument where
  width : Int16
  height : Int16
  frameSize : Nat
  fpsX1000 : Int32
  framesDeclared : Int32
  files : List (Path × Nat)
  index : BlockIndex

namespace IndexDocument

/-- One `key: value` line. -/
def entry (key value : String) : String := key ++ ": " ++ value ++ "\n"

/-- A list under a key. -/
def listEntry (key : String) (items : List String) : String :=
  if items.isEmpty then entry key "[]" else key ++ ":\n" ++ String.join items

/-- The indentation of the further lines of a value in a list item. -/
def itemIndent : Nat := 4

def fileItem (file : Path × Nat) : String :=
  entry "- path" (String.ofList (Text.Yaml.value itemIndent file.1.chars))
    ++ entry "  length" (toString file.2)

def blockItem (n : Nat) (d : BlockDescriptor) : String :=
  entry "- block" (toString n) ++ entry "  file" (toString d.file)
    ++ entry "  offset" (toString d.offset) ++ entry "  timestampNs" (toString d.timestampNs)

def render (doc : IndexDocument) : String :=
  entry "width" (toString doc.width) ++ entry "height" (toString doc.height)
    ++ entry "frameSize" (toString doc.frameSize) ++ entry "fpsX1000" (toString doc.fpsX1000)
    ++ entry "framesDeclared" (toString doc.framesDeclared)
    ++ listEntry "files" (doc.files.map fileItem)
    ++ listEntry "blocks" (doc.index.toList.mapIdx blockItem)

def extension : List Char := ['y', 'a', 'm', 'l']

/-- Where a document goes that is to be written to `output`. -/
def outputPath (output : Path) : Path := output.ensureExtension extension

/-- Writes the document to a file. -/
def write (tree : FileTree) (output : Path) (doc : IndexDocument) : CommandOutcome :=
  let path := outputPath output
  match tree.writeFile path doc.render.toUTF8.toList with
  | .error e => ⟨tree, "", [], .error (.own ⟨"Failed to create " ++ path.text, [e.text]⟩)⟩
  | .ok written => ⟨written, "", [.indexWritten doc.index.size path], .ok ()⟩

/-- Writes the index of the recording that `input` is a chunk of, to a file or to the output. -/
def run (tree : FileTree) (failLevel : Level) (input : Path) (output : Option Path) :
    CommandOutcome :=
  let opened := Chunk.openRecording tree input
  match opened.value with
  | .error e => ⟨tree, "", opened.log, .error (.own e)⟩
  | .ok recording =>
    let opening := Reader.openWith failLevel recording.files NullHandler.mk
    let log := opened.log ++ opening.log
    match opening.result with
    | .error e => ⟨tree, "", log, .error (.read e)⟩
    | .ok reader =>
      let doc : IndexDocument := {
        width := reader.footer.width
        height := reader.footer.height
        frameSize := reader.frameSize
        fpsX1000 := reader.footer.fpsX1000
        framesDeclared := reader.footer.frameCount
        files := recording.paths.zip recording.files.lengths
        index := reader.index }
      match output with
      | none => ⟨tree, doc.render, log, .ok ()⟩
      | some path =>
        let written := doc.write tree path
        { written with log := log ++ written.log }

end IndexDocument

end RawReel
