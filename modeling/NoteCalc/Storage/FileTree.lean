import NoteCalc.Storage.Basic
import NoteCalc.Storage.Path

/-!
# Directory trees

Files and directories, each under the list of the names that lead to it from the topmost directory.
One directory is the working directory, from which relative paths start.  Documents are files with
the text in UTF-8 and line feeds as they are.
-/

namespace NoteCalc

/-- A file with its bytes, or a directory. -/
inductive TreeNode where
  | file (bytes : ByteArray)
  | directory

/-- What the tree holds besides the working directory and those above it, by the names on the
way. -/
structure FileTree where
  nodes : List (List String × TreeNode) := []

namespace FileTree

/-- The place of the working directory, a new one for temporary files.  Its name is known to nobody,
so it is one that no component of a path spells. -/
def workingDirectory : List String := ["tmp", "/"]

/-- What is at a place.  The working directory and those above it are always there. -/
def node? (tree : FileTree) (place : List String) : Option TreeNode :=
  if place.isPrefixOf workingDirectory then some .directory else tree.nodes.lookup place

/-- The most bytes that a name can have. -/
def longestName : Nat := 255

/-- The most bytes that a path can have. -/
def longestPath : Nat := 4095

/-- Go from a place to the entry with a name.  Only a directory has entries, and the topmost one is
above itself. -/
def enter (tree : FileTree) (place : List String) (name : String) :
    Except AccessFault (List String) :=
  match tree.node? place with
  | none => .error .missing
  | some (.file _) => .error .notDirectory
  | some .directory =>
      if name = ".." then .ok place.dropLast
      else if longestName < name.utf8ByteSize then .error .nameTooLong
      else .ok (place ++ [name])

/-- The place that a path leads to, whether or not something is there. -/
def locate (tree : FileTree) (path : Path) : Except AccessFault (List String) :=
  if longestPath < path.text.utf8ByteSize then .error .nameTooLong
  else path.components.foldlM tree.enter (if path.slashes = 0 then workingDirectory else [])

/-- Put a node at a place. -/
def put (tree : FileTree) (place : List String) (node : TreeNode) : FileTree :=
  ⟨(place, node) :: tree.nodes.filter fun entry => entry.1 != place⟩

/-- The bytes of the file at a path. -/
def readBytes (tree : FileTree) (path : Path) : Except AccessFault ByteArray := do
  match tree.node? (← tree.locate path) with
  | some (.file bytes) => return bytes
  | some .directory => .error .isDirectory
  | none => .error .missing

/-- Make bytes the whole of the file at a path. -/
def writeBytes (tree : FileTree) (path : Path) (bytes : ByteArray) :
    Except AccessFault FileTree := do
  let place ← tree.locate path
  match tree.node? place with
  | some .directory => .error .isDirectory
  | _ => return tree.put place (.file bytes)

/-- Make a directory at a path. -/
def makeDirectory (tree : FileTree) (path : Path) : Except AccessFault FileTree := do
  let place ← tree.locate path
  match tree.node? place with
  | some _ => .error .occupied
  | none => return tree.put place .directory

/-- Make a content the whole of the file at a path. -/
def store (tree : FileTree) (path : Path) (content : String) : Except StorageError FileTree :=
  (tree.writeBytes path content.toUTF8).mapError fun fault => .unwritable fault path.text

/-- The content stored at a path. -/
def fetch (tree : FileTree) (path : Path) : Except StorageError String :=
  match tree.readBytes path with
  | .error fault => .error (.unreadable fault path.text)
  | .ok bytes =>
      match String.fromUTF8? bytes with
      | some content => .ok content
      | none => .error (.invalidEncoding path.text)

instance : Storage FileTree where
  store tree text content :=
    match Path.ofText? text with
    | some path => tree.store path content
    | none => .error (.notPath text)
  fetch tree text :=
    match Path.ofText? text with
    | some path => tree.fetch path
    | none => .error (.notPath text)

end FileTree

end NoteCalc
