import RawReel.Binary64
import RawReel.Block
import RawReel.Block.Descriptor
import RawReel.Block.FileHeader
import RawReel.Block.RawInfoHeader
import RawReel.Block.Tag
import RawReel.Block.VideoFrameHeader
import RawReel.BuildStamp
import RawReel.Bytes
import RawReel.Bytes.Cursor
import RawReel.Bytes.LittleEndian
import RawReel.Calendar
import RawReel.Chunk
import RawReel.Command
import RawReel.Command.Extract
import RawReel.Command.IndexDocument
import RawReel.Command.Info
import RawReel.Command.Outcome
import RawReel.CommandLine
import RawReel.CommandLine.Parse
import RawReel.Diagnostic
import RawReel.Duration
import RawReel.Error
import RawReel.FileSet
import RawReel.FileTree
import RawReel.FileTree.OpenFile
import RawReel.Footer
import RawReel.Footer.Locate
import RawReel.Handler
import RawReel.Handler.Recorder
import RawReel.Index
import RawReel.IoError
import RawReel.JsonValue
import RawReel.JsonValue.Parse
import RawReel.LogFilter
import RawReel.LogLine
import RawReel.Main
import RawReel.Path
import RawReel.Pattern
import RawReel.Pattern.Bracket
import RawReel.Pattern.Error
import RawReel.Pattern.Parse
import RawReel.Pattern.Reading
import RawReel.Program
import RawReel.Reader
import RawReel.Reader.Frames
import RawReel.Record
import RawReel.Sensor
import RawReel.Stream
import RawReel.Stream.Memory
import RawReel.Text.Blank
import RawReel.Text.Digits
import RawReel.Text.FixedPoint
import RawReel.Text.Pad
import RawReel.Text.Quoted
import RawReel.Text.Record
import RawReel.Text.Unprintable
import RawReel.Text.Yaml
import RawReel.Proofs.FileSet
import RawReel.Proofs.Delivery
import RawReel.Proofs.Rewinding
import RawReel.Proofs.Layout
import RawReel.Proofs.Indexing
import RawReel.Proofs.Timestamps
import RawReel.Proofs.Lookup
import RawReel.Proofs.Opening
import RawReel.Proofs.Strict
import RawReel.Proofs.Run
import RawReel.Proofs.Gathering
import RawReel.Proofs.Payload
import RawReel.Proofs.Growth
import RawReel.Proofs.Watched
import RawReel.Proofs.BlockStream
import RawReel.Proofs.Codec
import RawReel.Proofs.Fields
import RawReel.Proofs.SelfDescribing
import RawReel.Proofs.Bounded
import RawReel.Proofs.Closing
import RawReel.Proofs.Splitting
import RawReel.Proofs.Shortened
import RawReel.Proofs.Decoded
import RawReel.Proofs.Formats
import RawReel.Proofs.Metadata
import RawReel.Proofs.FirstFault
import RawReel.Proofs.History
import RawReel.Proofs.Advancing
import RawReel.Proofs.Walking
import RawReel.Proofs.Extraction
import RawReel.Proofs.Numerals
import RawReel.Proofs.FileNames
import RawReel.Proofs.Resolving
import RawReel.Proofs.Chunks
import RawReel.Proofs.DocumentPath
import RawReel.Proofs.BitReader
import RawReel.Proofs.ByteCursor
import RawReel.Proofs.JsonText
import RawReel.Proofs.JsonReading
import RawReel.Proofs.JsonStrings
import RawReel.Proofs.LogLines
