import SampleData.Failure
import SampleData.Text.Pieces
import SampleData.Text.Quoted

/-!
# File trees

The files below a working directory.  A path is a list of names from the working directory
down; the text of a path is resolved name by name, and every name on the way must be that
of a directory.  A text that is too long is not followed at all, and of the directories above
the working directory no more is known than that they are there.
-/

namespace SampleData

inductive FileNode where
  | file (content : ByteArray)
  | directory
  deriving Inhabited

/-- The names on the way from the working directory. -/
abbrev FilePath := List String

structure FileTree where
  /-- What stands at each path; the working directory itself is not listed. -/
  entries : List (FilePath × FileNode) := []
  deriving Inhabited

namespace FileTree

/-! ## Looking -/

def node? (tree : FileTree) (path : FilePath) : Option FileNode :=
  if path.isEmpty then some .directory else tree.entries.lookup path

inductive Place where
  /-- Along these names from the working directory down. -/
  | below (path : FilePath)
  /-- To a directory above the working directory, of which no more than that is known. -/
  | above
  deriving DecidableEq, Repr, Inhabited

def at? (tree : FileTree) : Place → Option FileNode
  | .below path => tree.node? path
  | .above => some .directory

/-- A path whose text has this many bytes is not followed any more. -/
def pathLimit : Nat :=
  4096

def isTooLong (raw : String) : Bool :=
  pathLimit ≤ raw.utf8ByteSize

def parts (raw : String) : List String :=
  (raw.toList.splitOn '/').map String.ofList

/-- Names from a directory above the working directory that lead to such a directory again. -/
def staysAbove (names : List String) : Bool :=
  names.all fun name => name == "" || name == "." || name == ".."

/-- Follow names from a directory above the working directory, where no other name is known. -/
def followAbove (names : List String) : Except FileFault Place :=
  if staysAbove names then .ok .above else .error .notFound

/--
Follow names from a path that has been reached.  An empty name and a point stay, two points
go back, and each of these as well as any further name needs a directory.
-/
def follow (tree : FileTree) : FilePath → List String → Except FileFault Place
  | reached, [] => .ok (.below reached)
  | reached, name :: rest =>
      match tree.node? reached with
      | none => .error .notFound
      | some (.file _) => .error .notDirectory
      | some .directory =>
          if name = "" ∨ name = "." then follow tree reached rest
          else if name = ".." then
            if reached.isEmpty then followAbove rest else follow tree reached.dropLast rest
          else follow tree (reached ++ [name]) rest

/-- Resolve the text of a path; the last name on it need not exist. -/
def resolve (tree : FileTree) (raw : String) : Except FileFault Place :=
  if isTooLong raw then .error .nameTooLong
  else if raw.isEmpty then .error .notFound
  else if raw.startsWith "/" then followAbove (parts raw)
  else tree.follow [] (parts raw)

def find (tree : FileTree) (raw : String) : Except FileFault (Place × FileNode) := do
  let place ← tree.resolve raw
  match tree.at? place with
  | some node => .ok (place, node)
  | none => .error .notFound

def contains (tree : FileTree) (raw : String) : Bool :=
  (tree.find raw).toOption.isSome

def isDirectory (tree : FileTree) (raw : String) : Bool :=
  match tree.find raw with
  | .ok (_, .directory) => true
  | _ => false

def decode (content : ByteArray) : Except FileFault String :=
  match String.fromUTF8? content with
  | some text => .ok text
  | none => .error .invalidText

def readText (tree : FileTree) (raw : String) : Except FileFault String := do
  match ← tree.find raw with
  | (_, .file content) => decode content
  | (_, .directory) => .error .isDirectory

/--
The pieces of a file's content between its line feeds; those that are no valid text are left
out.
-/
def legibleLines (content : ByteArray) : List String :=
  (content.data.toList.splitOn '\n'.toUInt8).filterMap fun piece =>
    String.fromUTF8? ⟨piece.toArray⟩

def readLines (tree : FileTree) (raw : String) : Except FileFault (List String) := do
  match ← tree.find raw with
  | (_, .file content) => .ok (legibleLines content)
  | (_, .directory) => .error .isDirectory

structure Found where
  /-- The names from that directory down; none when the file stands there itself. -/
  below : FilePath
  name : String
  content : ByteArray

def below? (path : FilePath) (other : FilePath) : Option FilePath :=
  List.isPrefixOf? path other

def found? (path : FilePath) (entry : FilePath × FileNode) : Option Found :=
  match entry.2 with
  | .directory => none
  | .file content =>
      (below? path entry.1).map fun below => ⟨below, entry.1.getLastD "", content⟩

def pathText (raw : String) (below : FilePath) : String :=
  if below.isEmpty then raw
  else if raw.endsWith "/" then raw ++ "/".intercalate below
  else raw ++ "/" ++ "/".intercalate below

/-- Whether the directory of a found file can be looked into by the text of its path. -/
def Found.isReached (raw : String) (found : Found) : Bool :=
  !isTooLong (pathText raw found.below.dropLast)

def Found.read (raw : String) (found : Found) : Except FileFault String :=
  if isTooLong (pathText raw found.below) then .error .nameTooLong else decode found.content

/-- The files at and below the text of a path, in order of the names on their paths. -/
def files (tree : FileTree) (raw : String) : List Found :=
  match tree.find raw with
  | .ok (.below path, _) =>
      ((tree.entries.filterMap (found? path)).filter (Found.isReached raw)).mergeSort
        fun a b => !(decide (b.below < a.below))
  | _ => []

/-- The part of a file name after its last point; a point at the start does not count. -/
def extension? (name : String) : Option String :=
  let reversed := name.toList.reverse
  match reversed.dropWhile fun c => c != '.' with
  | [] => none
  | [_] => none
  | _ :: _ => some (String.ofList (reversed.takeWhile fun c => c != '.').reverse)

/-! ## Changing -/

def put (tree : FileTree) (path : FilePath) (node : FileNode) : FileTree :=
  ⟨(path, node) :: tree.entries.filter fun entry => entry.1 != path⟩

/--
Make the directories that are missing on the way along names from a path.  A file on the way is a
fault, and the tree has the directories that were made before it was come upon.
-/
def makeDirectories (tree : FileTree) :
    FilePath → List String → Except FileFault Unit × FileTree
  | _, [] => (.ok (), tree)
  | reached, name :: rest =>
      let path := reached ++ [name]
      match tree.node? path with
      | some .directory => makeDirectories tree path rest
      | some (.file _) => (.error (if rest.isEmpty then .exists else .notDirectory), tree)
      | none => makeDirectories (tree.put path .directory) path rest

/-- Write a file at the text of a path, whose directory must exist. -/
def writeText (tree : FileTree) (raw : String) (text : String) : Except FileFault FileTree := do
  match ← tree.resolve raw with
  | .above => .error .isDirectory
  | .below path =>
      match tree.node? path.dropLast, tree.node? path with
      | some .directory, some .directory => .error .isDirectory
      | some .directory, _ => .ok (tree.put path (.file text.toUTF8))
      | some (.file _), _ => .error .notDirectory
      | none, _ => .error .notFound

def add (tree : FileTree) (raw : String) (node : FileNode) : FileTree :=
  let path := (parts raw).filter fun name => name != "" && name != "."
  match tree.makeDirectories [] path.dropLast with
  | (.ok _, made) => if path.isEmpty then made else made.put path node
  | (.error _, _) => tree

theorem node?_put (tree : FileTree) {path : FilePath} (h : path ≠ []) (node : FileNode) :
    (tree.put path node).node? path = some node := by
  cases path with
  | nil => exact absurd rfl h
  | cons name rest => simp [node?, put]

end FileTree

end SampleData
