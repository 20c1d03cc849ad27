import RawReel.Bytes
import RawReel.IoError
import RawReel.Path

/-!
The files and directories that a command works on. A location is the list of names that leads from
the root to a file or a directory; a path is resolved to a location the way an operating system does
it, component by component, so that every file on the way is noticed.
-/

namespace RawReel

abbrev Location := List (List Char)

inductive Node
  | file (content : Bytes)
  | directory
  deriving DecidableEq

structure FileTree where
  /-- Everything below the root. -/
  nodes : List (Location × Node)
  /-- Where relative paths start. -/
  workingDirectory : Location

namespace FileTree

/-- A tree that holds the working directory and the directories around it. -/
def empty (workingDirectory : Location) : FileTree :=
  let around := (List.range workingDirectory.length).map fun n =>
    (workingDirectory.take (n + 1), Node.directory)
  ⟨around, workingDirectory⟩

/-- What stands at a location. The root is a directory. -/
def at? (t : FileTree) (location : Location) : Option Node :=
  if location = [] then some .directory else t.nodes.lookup location

def isDirectoryAt (t : FileTree) (location : Location) : Bool :=
  t.at? location == some .directory

def isFileAt (t : FileTree) (location : Location) : Bool :=
  match t.at? location with
  | some (.file _) => true
  | _ => false

/-- Puts a node at a location, in place of what stood there. -/
def put (t : FileTree) (location : Location) (node : Node) : FileTree :=
  { t with nodes := (location, node) :: t.nodes.filter fun entry => entry.1 != location }

@[simp] theorem workingDirectory_put (t : FileTree) (location : Location) (node : Node) :
    (t.put location node).workingDirectory = t.workingDirectory := rfl

theorem at?_put_self (t : FileTree) {location : Location} (node : Node) (h : location ≠ []) :
    (t.put location node).at? location = some node := by
  simp [at?, put, h]

theorem at?_put_of_ne (t : FileTree) {location other : Location} (node : Node)
    (h : other ≠ location) : (t.put location node).at? other = t.at? other := by
  have hlookup : ∀ nodes : List (Location × Node),
      (nodes.filter fun entry => entry.1 != location).lookup other = nodes.lookup other := by
    intro nodes
    induction nodes with
    | nil => rfl
    | cons entry nodes ih =>
      obtain ⟨key, value⟩ := entry
      by_cases hkey : key = location
      · have hne : (other == location) = false := by simpa using h
        simp [hkey, ih, List.lookup_cons, hne]
      · by_cases hother : other = key
        · subst hother; simp [hkey]
        · have hne : (other == key) = false := by simpa using hother
          simp [List.lookup_cons, hkey, hne, ih]
  have hne : (other == location) = false := by simpa using h
  simp [at?, put, List.lookup_cons, hne, hlookup]

/-- The largest number of bytes in a name. -/
def maxName : Nat := 255

/-- The largest number of bytes in a path. -/
def maxPath : Nat := 4095

/-- The last step of a path: the directory it is taken in, the name, and whether the path asks for
a directory, by ending in a slash. A path that ends in `.` or `..`, and the root, name nothing. -/
inductive Target
  | entry (directory : Location) (name : List Char) (asDirectory : Bool)
  | directory (location : Location)

/-- Steps into a component on the way; only a directory can be stepped into. -/
def enter (t : FileTree) (location : Location) (component : List Char) :
    Except IoError Location :=
  if component = ['.'] then .ok location
  else if component = ['.', '.'] then .ok location.dropLast
  else if (String.ofList component).utf8ByteSize > maxName then .error .nameTooLong
  else
    match t.at? (location ++ [component]) with
    | none => .error .noSuchFile
    | some (.file _) => .error .notADirectory
    | some .directory => .ok (location ++ [component])

/-- Walks the components of a path up to the last one. -/
def walk (t : FileTree) (asDirectory : Bool) :
    Location → List (List Char) → Except IoError Target
  | location, [] => .ok (.directory location)
  | location, [component] =>
    if component = ['.'] ∨ component = ['.', '.'] then
      (t.enter location component).map .directory
    else if (String.ofList component).utf8ByteSize > maxName then .error .nameTooLong
    else .ok (.entry location component asDirectory)
  | location, component :: rest => do
    t.walk asDirectory (← t.enter location component) rest

/-- The components of a path, the blank ones left out. -/
def components (chars : List Char) : List (List Char) :=
  (chars.splitOn '/').filter (· != [])

def resolve (t : FileTree) (p : Path) : Except IoError Target :=
  if p.chars.contains '\x00' then .error .nulInName
  else if p.chars = [] then .error .noSuchFile
  else if p.text.utf8ByteSize > maxPath then .error .nameTooLong
  else
    let start := if p.chars.head? = some '/' then [] else t.workingDirectory
    t.walk (p.chars.getLast? == some '/') start (components p.chars)

/-- The location of what a path names, which has to exist. -/
def find (t : FileTree) (p : Path) : Except IoError Location := do
  match ← t.resolve p with
  | .directory location => return location
  | .entry directory name asDirectory =>
    match t.at? (directory ++ [name]) with
    | none => .error .noSuchFile
    | some (.file _) =>
      if asDirectory then .error .notADirectory else return directory ++ [name]
    | some .directory => return directory ++ [name]

def isFile (t : FileTree) (p : Path) : Bool :=
  match t.find p with
  | .ok location => t.isFileAt location
  | .error _ => false

def isDirectory (t : FileTree) (p : Path) : Bool :=
  match t.find p with
  | .ok location => t.isDirectoryAt location
  | .error _ => false

/-- The contents of the file at a location; none for anything else. -/
def contentAt (t : FileTree) (location : Location) : Bytes :=
  match t.at? location with
  | some (.file content) => content
  | _ => []

/-- The contents of the file that a path names. -/
def readFile (t : FileTree) (p : Path) : Except IoError Bytes := do
  let location ← t.find p
  if t.isFileAt location then return t.contentAt location else .error .isADirectory

/-- Where the file that a path names is, or is to be made. -/
def fileTarget (t : FileTree) (p : Path) : Except IoError Location := do
  match ← t.resolve p with
  | .directory _ => .error .isADirectory
  | .entry directory name asDirectory =>
    if asDirectory ∨ t.isDirectoryAt (directory ++ [name]) then .error .isADirectory
    else return directory ++ [name]

/-- Writes a file from its start, in place of what it held. -/
def writeFile (t : FileTree) (p : Path) (content : Bytes) : Except IoError FileTree := do
  return t.put (← t.fileTarget p) (.file content)

/-- Makes one directory. -/
def makeDirectory (t : FileTree) (p : Path) : Except IoError FileTree := do
  match ← t.resolve p with
  | .directory _ => .error .fileExists
  | .entry directory name _ =>
    match t.at? (directory ++ [name]) with
    | some _ => .error .fileExists
    | none => return t.put (directory ++ [name]) .directory

/-- Makes a directory and those around it that are missing; one that exists is left as it is. A
directory made on the way stays also when a later one fails. -/
def makeDirectories (t : FileTree) (p : Path) : FileTree × Except IoError Unit :=
  if p.chars = [] then (t, .ok ())
  else
    match t.makeDirectory p with
    | .ok made => (made, .ok ())
    | .error e =>
      if e.kind = .notFound then
        match _h : p.parent? with
        | none => (t, .error ⟨.other, "failed to create whole tree"⟩)
        | some parent =>
          match t.makeDirectories parent with
          | (grown, .error e) => (grown, .error e)
          | (grown, .ok _) =>
            match grown.makeDirectory p with
            | .ok made => (made, .ok ())
            | .error e => (grown, if grown.isDirectory p then .ok () else .error e)
      else (t, if t.isDirectory p then .ok () else .error e)
termination_by p.chars.length
decreasing_by exact Path.parent?_shorter _h

/-- What stands in `later` and did not stand in `t`: new directories, and files that are new or
hold something else. -/
def changes (t later : FileTree) : List (Location × Node) :=
  later.nodes.filter fun (location, node) => t.at? location != some node

end FileTree

end RawReel
