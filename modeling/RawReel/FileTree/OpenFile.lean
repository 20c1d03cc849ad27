import RawReel.FileTree
import RawReel.Stream

/-!
Files of a tree, opened for reading. An open file is the file at a location: what is written there
later shows in later reads, once the tree is looked at again.
-/

namespace RawReel

structure OpenFile where
  location : Location
  content : Bytes
  position : Nat
  deriving DecidableEq

namespace OpenFile

/-- The file as it stands in a tree now. -/
def refresh (tree : FileTree) (file : OpenFile) : OpenFile :=
  { file with content := tree.contentAt file.location }

def readUpTo (file : OpenFile) (want : Nat) : ReadReply × OpenFile :=
  let bytes := (file.content.drop file.position).take want
  (.delivered bytes, { file with position := file.position + bytes.length })

instance : ByteStream OpenFile where
  seek file position := (.ok (), { file with position })
  seekEnd file := (.ok file.content.length, { file with position := file.content.length })
  read := readUpTo
  patience _ := 0
  length_le h := by
    cases h
    exact List.length_take_le ..
  patience_lt h := by simp [readUpTo] at h

end OpenFile

namespace FileTree

/-- Opens a file for reading. -/
def openFile (tree : FileTree) (p : Path) : Except IoError OpenFile := do
  let location ← tree.find p
  if tree.isFileAt location then return ⟨location, tree.contentAt location, 0⟩
  else .error .isADirectory

end FileTree

end RawReel
