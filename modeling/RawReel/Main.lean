import RawReel.Calendar
import RawReel.Program
import Std.Time.DateTime.Timestamp

/-!
The program on real files: what a command may need is read into a tree, and what it changed in the
tree is written back.
-/

namespace RawReel.Disk

/-- A location as the operating system writes it. -/
def pathText (location : Location) : String :=
  "/" ++ "/".intercalate (location.map String.ofList)

/-- Notes in the tree what stands at a location. The contents of files are read if they are
wanted. -/
def note (wanted : Bool) (tree : FileTree) (location : Location) : IO FileTree := do
  let path := (← IO.currentDir) / pathText location
  if ← path.isDir then return tree.put location .directory
  else if ← path.pathExists then
    let content ← if wanted then pure (← IO.FS.readBinFile path).toList else pure []
    return tree.put location (.file content)
  else return tree

/-- The locations that a path leads through. -/
def locationsOn (tree : FileTree) (p : Path) : List Location :=
  let start := if p.chars.head? = some '/' then [] else tree.workingDirectory
  let step := fun (location, passed) (component : List Char) =>
    let next :=
      if component = ['.'] then location
      else if component = ['.', '.'] then location.dropLast
      else location ++ [component]
    (next, passed ++ [next])
  ((FileTree.components p.chars).foldl step (start, ([] : List Location))).2

/-- Notes everything on the way to a path. -/
def notePath (wanted : Bool) (tree : FileTree) (p : Path) : IO FileTree :=
  (locationsOn tree p).foldlM (note wanted) tree

/-- Notes what stands in a directory. -/
def noteEntries (tree : FileTree) (p : Path) : IO FileTree := do
  match tree.find p with
  | .error _ => return tree
  | .ok location =>
    if tree.isDirectoryAt location then
      let entries ← ((← IO.currentDir) / pathText location).readDir
      entries.foldlM
        (fun tree entry => note false tree (location ++ [entry.fileName.toList])) tree
    else return tree

/-- Everything that a command may need to know about the files. -/
def treeFor (command : Command) : IO FileTree := do
  let here := FileTree.components (← IO.currentDir).toString.toList
  let mut tree := FileTree.empty here
  for p in command.outputs do
    tree ← notePath false tree p
    tree ← noteEntries tree p
  for p in command.inputs do
    tree ← notePath true tree p
  return tree

/-- Writes one change of the tree to disk. -/
def write (location : Location) : Node → IO Unit
  | .directory => do IO.FS.createDirAll ((← IO.currentDir) / pathText location)
  | .file content => do
    IO.FS.writeBinFile ((← IO.currentDir) / pathText location) ⟨content.toArray⟩

/-- Writes back what changed, directories before what is in them. -/
def writeChanges (before after : FileTree) : IO Unit :=
  ((before.changes after).mergeSort fun a b => a.1.length ≤ b.1.length).forM fun change =>
    write change.1 change.2

/-- The time of the clock. -/
def now : IO Moment := return (← Std.Time.Timestamp.now).toSecondsSinceUnixEpoch.val

end RawReel.Disk

open RawReel in
def main (arguments : List String) : IO UInt32 := do
  let tree ← match CommandLine.parse arguments with
    | .ok line => Disk.treeFor line.command
    | .error _ => pure (FileTree.empty [])
  let invocation : Invocation :=
    { arguments, filter := ← IO.getEnv "RUST_LOG", time := (← Disk.now).word, tree }
  let done := Program.run invocation
  Disk.writeChanges tree done.tree
  IO.print done.output
  done.errorLines.forM IO.eprintln
  return UInt32.ofNat done.exitCode
