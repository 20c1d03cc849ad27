import RawReel.Chunk
import RawReel.Command.Outcome
import RawReel.Duration
import RawReel.Reader

/-!
The report on a recording: its files, its frames, and the sensor that took it.
-/

namespace RawReel

/-- Lines of text, each with its end. -/
def Text.lines (lines : List String) : String := String.join (lines.map (· ++ "\n"))

namespace Info

/-- Width of the column with the names of the values. -/
def labelWidth : Nat := 26

/-- A line of the report: a name and a value. -/
def row (label value : String) : String := "  " ++ Text.padEnd labelWidth label ++ value

def fileRows (paths : List Path) (lengths : List Nat) : List String :=
  "Files" :: (List.zipWith (fun path length => row path.text s!"{length} bytes") paths lengths)

/-- How long frames of a rate take to show, in seconds. -/
def seconds (frames : Nat) (fps : Float) : Float := Float.ofNat frames / fps

def videoRows (footer : Footer) (index : BlockIndex) : List String :=
  ["Video Information",
    row "Resolution" s!"{footer.width}x{footer.height}",
    row "Frame size" s!"{footer.frameBytes} bytes",
    row "Frame rate" (Text.fixedFloat 3 footer.fps ++ " fps"),
    row "Frame skip" (toString footer.frameSkip),
    row "Frames declared" (toString footer.frameCount),
    row "Frames indexed" (toString index.size),
    row "Duration" (Duration.ofSeconds (seconds index.size footer.fps))]
  ++ (index.last?.map fun last =>
    row "Last frame at" (Duration.ofNanoseconds last.timestampNs)).toList

/-- A calibration entry as a decimal number; one without a denominator is zero. -/
def ratio (q : Ratio) : String :=
  if q.den = 0 then "0" else Text.fixedFloat 4 (q.num.toFloat / q.den.toFloat)

/-- The colour matrix; only its first row has a name. -/
def matrixRows (m : ColorMatrix) : List String :=
  List.zipWith (fun label (r : ColorRow) => row label ("  ".intercalate (r.entries.map ratio)))
    ["Color matrix", "", ""] m.rows

def sensorRows (s : SensorInfo) : List String :=
  let area := s.activeArea
  ["Sensor Information",
    row "Buffer" s!"{s.width}x{s.height}",
    row "Pitch" s!"{s.pitch} bytes",
    row "Bits per pixel" (toString s.bitsPerPixel),
    row "Black level" (toString s.blackLevel),
    row "White level" (toString s.whiteLevel),
    row "Active area" s!"{area.width}x{area.height} at ({area.left}, {area.top})",
    row "CFA pattern" (String.ofList (Text.upperHex 8 s.cfaPattern.toUInt32.toNat)),
    row "Dynamic range" (Text.fixedFloat 2 (s.dynamicRange.toFloat / 100) ++ " EV")]
  ++ matrixRows s.colorMatrix

def report (paths : List Path) (lengths : List Nat) (footer : Footer) (index : BlockIndex) :
    String :=
  Text.lines <|
    ["", "RAW Recording Information", "=========================", ""]
    ++ fileRows paths lengths ++ [""]
    ++ videoRows footer index ++ [""]
    ++ sensorRows footer.sensor ++ [""]

/-- Reports on the recording that `input` is a chunk of. -/
def run (tree : FileTree) (failLevel : Level) (input : Path) : CommandOutcome :=
  let opened := Chunk.openRecording tree input
  let log := .analyzing input :: opened.log
  match opened.value with
  | .error e => ⟨tree, "", log, .error (.own e)⟩
  | .ok recording =>
    let opening := Reader.openWith failLevel recording.files NullHandler.mk
    let log := log ++ opening.log
    match opening.result with
    | .error e => ⟨tree, "", log, .error (.read e)⟩
    | .ok reader =>
      let text := report recording.paths recording.files.lengths reader.footer reader.index
      ⟨tree, text, log, .ok ()⟩

end Info

end RawReel
