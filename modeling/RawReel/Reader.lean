import RawReel.Footer.Locate
import RawReel.Handler
import RawReel.Index

/-!
Reading a recording. Opening it finds the footer, builds the index and gives the file header and the
raw info block to the handler. After that, frames are read into one buffer, by number or one after
the other; a frame that is read as a block is given to the handler too. A reader that was closed
refuses every read.
-/

namespace RawReel

structure Reader (σ η : Type) where
  /-- The files of the recording, until the reader is closed. -/
  files : Option (FileSet σ)
  footer : Footer
  fileHeader : FileHeader
  rawInfo : RawInfoHeader
  index : BlockIndex
  buffer : FrameBuffer
  handler : η
  /-- The next block to read. -/
  cursor : Nat

/-- The reader after an operation, and what the operation gave. -/
structure Step (σ η α : Type) where
  reader : Reader σ η
  result : Except ReadError α
  log : Log

/-- The outcome of opening a recording. The handler has seen some blocks also if it fails. -/
structure Opening (σ η : Type) where
  result : Except ReadError (Reader σ η)
  handler : η
  log : Log

namespace Step

variable {σ η α β : Type}

/-- Goes on after an operation that succeeded. -/
def andThen (step : Step σ η α) (next : α → Reader σ η → Step σ η β) : Step σ η β :=
  match step.result with
  | .error e => ⟨step.reader, .error e, step.log⟩
  | .ok value =>
    let after := next value step.reader
    { after with log := step.log ++ after.log }

end Step

namespace Reader

variable {σ η : Type}

/-- Compares the frames that the footer declares with those that were found. Too few of them are
worth a warning, which a caller may want to be an error. -/
def checkFrameCount (failLevel : Level) (declared : Int32) (found : Nat) : Except ReadError Log :=
  if (found : Int) < declared.toInt then
    if .warn ≤ failLevel then .error (.format (.frameCountMismatch declared found))
    else .ok [.fewerFrames declared found]
  else if (found : Int) ≠ declared.toInt then .ok [.moreFrames declared found]
  else .ok []

section Opening

variable [BlockHandler η]

/-- Gives the two blocks without payload to the handler, the file header first. -/
def introduce (r : Reader σ η) : Opening σ η :=
  let first := dispatch r.handler (.fileHeader r.fileHeader) r.buffer 0
  match first.outcome with
  | .error e => ⟨.error (.handler e), first.handler, first.log⟩
  | .ok _ =>
    let second := dispatch first.handler (.rawInfo r.rawInfo) r.buffer 0
    ⟨match second.outcome with
      | .error e => .error (.handler e)
      | .ok _ => .ok { r with handler := second.handler },
      second.handler, first.log ++ second.log⟩

/-- Opens a recording. Reports at `failLevel` or more urgent ones that an error can stand for fail
the opening. -/
def openWith [ByteStream σ] (failLevel : Level) (files : FileSet σ) (handler : η) :
    Opening σ η :=
  let search := Footer.locate files
  match search.result with
  | .error e => ⟨.error e, handler, search.log⟩
  | .ok footer =>
    let built := BlockIndex.build search.files.lengths Footer.size footer.frameBytes footer.rate
    match checkFrameCount failLevel footer.frameCount built.value.size with
    | .error e => ⟨.error e, handler, search.log ++ built.log⟩
    | .ok warning =>
      let opening := introduce {
        files := some search.files
        footer := footer
        fileHeader := .synthesize footer search.files.size built.value.size
        rawInfo := .ofFooter footer
        index := built.value
        buffer := .blank footer.frameBytes
        handler := handler
        cursor := 0 }
      { opening with log := search.log ++ built.log ++ warning ++ opening.log }

end Opening

def isReady (r : Reader σ η) : Bool := r.files.isSome

def frameSize (r : Reader σ η) : Nat := r.buffer.size

def blockCount (r : Reader σ η) : Nat := r.index.size

/-- Moves the cursor. Whether there is a block at it shows when it is read. -/
def setCursor (r : Reader σ η) (cursor : Nat) : Reader σ η := { r with cursor }

/-- Lets go of the files. -/
def close (r : Reader σ η) : Logged (Reader σ η) :=
  ⟨{ r with files := none }, if r.isReady then [.closed] else []⟩

/-- The reader with every stream replaced. -/
def mapStreams (r : Reader σ η) (f : σ → σ) : Reader σ η :=
  { r with files := r.files.map fun files =>
      ⟨files.members.map fun member => { member with stream := f member.stream }⟩ }

section Reading

variable [ByteStream σ]

/-- The files after a frame was read, and the bytes that came of it, also if it failed. -/
structure Gathered (σ : Type) where
  files : FileSet σ
  received : Bytes
  result : Except ReadError Unit
  log : Log

/-- Reads the rest of frame `index`, of which `received` is there, from `offset` of `file` on. What
the file cannot give stands at the start of the next one; `left` files come after this one.

Sizes in memory are taken to be 64 bits wide, as lengths of files are: the length of a file is
compared with the room in the buffer as it is, and not cut to fewer bits. -/
def gather (index frameSize left : Nat) (files : FileSet σ) (file offset : Nat)
    (received : Bytes) : Gathered σ :=
  let want := frameSize - received.length
  let expected := min want ((files.length? file).getD 0 - offset)
  let access := files.readAt file offset want
  let sofar := received ++ access.received
  match access.outcome with
  | .error e => ⟨access.files, sofar, .error (.io e), access.log⟩
  | .ok _ =>
    if access.received.length < expected then
      ⟨access.files, sofar,
        .error (.size (.shortRead index file access.received.length expected)), access.log⟩
    else if frameSize ≤ sofar.length then ⟨access.files, sofar, .ok (), access.log⟩
    else
      match left with
      | 0 =>
        ⟨access.files, sofar, .error (.size
          (.missingContinuation index files.size (frameSize - sofar.length))), access.log⟩
      | left + 1 =>
        let rest := gather index frameSize left access.files (file + 1) 0 sofar
        { rest with log := access.log ++ .continues index (file + 1) :: rest.log }

/-- Reads a frame into the buffer. The handler does not see it. -/
def readFrame (r : Reader σ η) (index : Nat) : Step σ η Bytes :=
  match r.files with
  | none => ⟨r, .error (.bounds .notReady), []⟩
  | some files =>
    match r.index.get? index with
    | none => ⟨r, .error (.bounds (.outOfRange index r.blockCount)), []⟩
    | some start =>
      let gathered :=
        gather index r.frameSize (files.size - 1 - start.file) files start.file start.offset []
      let buffer := r.buffer.overwrite gathered.received
      { reader := { r with files := some gathered.files, buffer }
        result := gathered.result.map fun _ => buffer.contents
        log := gathered.log }

variable [BlockHandler η]

/-- Gives the frame in the buffer to the handler, as block `index`. -/
def dispatchFrame (r : Reader σ η) (index : Nat) (timestampNs : UInt64) : Step σ η Unit :=
  let handled :=
    dispatch r.handler (.videoFrame (.ofFrame index timestampNs r.frameSize)) r.buffer r.frameSize
  ⟨{ r with handler := handled.handler }, handled.outcome.mapError .handler, handled.log⟩

/-- Reads a frame and gives it to the handler. -/
def readBlock (r : Reader σ η) (index : Nat) : Step σ η Unit :=
  (r.readFrame index).andThen fun _ read =>
    match read.index.get? index with
    | none => ⟨read, .error (.bounds (.outOfRange index read.blockCount)), []⟩
    | some start => read.dispatchFrame index start.timestampNs

/-- Reads the block at the cursor and moves on; false if the cursor is past the last block. -/
def readNext (r : Reader σ η) : Step σ η Bool :=
  if ¬ r.isReady then ⟨r, .error (.bounds .notReady), []⟩
  else if r.blockCount ≤ r.cursor then ⟨r, .ok false, []⟩
  else
    (r.readBlock r.cursor).andThen fun _ read =>
      ⟨read.setCursor (read.cursor + 1), .ok true, []⟩

/-- Reads blocks from the cursor on until `count` were read, or none was left, or a read failed,
and tells how many were read. -/
def readBlocks (r : Reader σ η) : Nat → Step σ η Unit × Nat
  | 0 => (⟨r, .ok (), []⟩, 0)
  | count + 1 =>
    let step := r.readNext
    match step.result with
    | .error e => (⟨step.reader, .error e, step.log⟩, 0)
    | .ok false => (⟨step.reader, .ok (), step.log⟩, 0)
    | .ok true =>
      let (rest, read) := readBlocks step.reader count
      ({ rest with log := step.log ++ rest.log }, read + 1)

/-- Reads all blocks from the cursor on. -/
def readAll (r : Reader σ η) : Step σ η Unit × Nat :=
  r.readBlocks (r.blockCount - r.cursor + 1)

end Reading

end Reader

end RawReel
