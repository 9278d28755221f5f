import SampleData.Program
import Std.Time.DateTime.Timestamp

/-!
# The command line

The program on a real project: the files it may need are read from the working directory,
the command is carried out on them as values, and then its lines are printed and the files
it made are written.  Everything is decided by `Arguments.read` and `Program.run`.
-/

namespace SampleData

namespace CommandLine

/-! ## Files -/

def textOfPath (path : FilePath) : String :=
  if path.isEmpty then "." else "/".intercalate path

/-- The paths that the text of a path leads through, the last one being where it leads. -/
def waypoints (raw : String) : List FilePath :=
  go [] (FileTree.parts raw)
where
  /-- The paths from one that has been reached. -/
  go (reached : FilePath) : List String → List FilePath
    | [] => [reached]
    | name :: rest =>
        if name = "" ∨ name = "." then go reached rest
        else if name = ".." then reached :: go reached.dropLast rest
        else reached :: go (reached ++ [name]) rest

/--
Add what stands at a path, and everything below it if it is a directory and that is asked for.
-/
partial def addPath (deep : Bool) (tree : FileTree) (path : FilePath) : IO FileTree := do
  let text := textOfPath path
  let place := System.mkFilePath [text]
  match ← place.metadata.toBaseIO with
  | .error _ => pure tree
  | .ok metadata =>
      match metadata.type with
      | .dir =>
          let tree := tree.add text .directory
          if deep then
            let entries ← place.readDir
            entries.foldlM (fun tree entry => addPath deep tree (path ++ [entry.fileName])) tree
          else
            pure tree
      | .file =>
          match ← (IO.FS.readBinFile place).toBaseIO with
          | .ok content => pure (tree.add text (.file content))
          | .error _ => pure tree
      | _ => pure tree

def addText (tree : FileTree) (raw : String) : IO FileTree := do
  let paths := waypoints raw
  let tree ← paths.dropLast.foldlM (addPath false) tree
  paths.getLast?.toList.foldlM (addPath true) tree

def usualPaths : List String :=
  [Project.localEnvironmentPath, Project.environmentPath, Config.path, Scaffold.manifestPath,
   Scaffold.schemaPath]

def configuredPaths (tree : FileTree) : List String :=
  match Config.load tree with
  | .ok config => [config.manifest, config.schemaDir]
  | .error _ => []

def readProject : IO FileTree := do
  let usual ← usualPaths.foldlM addText {}
  (configuredPaths usual).foldlM addText usual

/-- Write what stands in a tree where nothing stood before. -/
def writeNew (before after : FileTree) : IO Unit := do
  for (path, node) in after.entries.reverse do
    if (before.node? path).isNone then
      match node with
      | .directory => IO.FS.createDirAll (textOfPath path)
      | .file content => IO.FS.writeBinFile (textOfPath path) content

/-! ## Time, chance and the database -/

def currentInstant : IO Instant := do
  let nanos := (← Std.Time.Timestamp.now).toNanosecondsSinceUnixEpoch.val
  pure { seconds := nanos / 1000000000, nanos := (nanos % 1000000000).toNat }

def freshDraws : IO Draws := do
  let bytes ← IO.getRandomBytes 8
  pure (.ofSeed (UInt64.ofNat (bytes.toList.foldl (fun n byte => n * 256 + byte.toNat) 0)))

/-- A server for a program that reaches no database: it refuses everything. -/
def absentServer : Server Unit where
  reply := fun _ => pure (.refused "no database can be reached")

/-! ## Running -/

/-- Carry out what the arguments ask for; the result is the exit code. -/
def run (arguments : List String) : IO UInt32 := do
  let invocation := Arguments.read arguments
  let tree ← readProject
  let (ending, _) :=
    Program.run absentServer (← currentInstant) (← freshDraws) tree invocation { server := () }
  writeNew tree ending.tree
  ending.lines.forM IO.println
  if invocation = .misuse then
    Program.helpLines.forM IO.eprintln
  if let some failure := ending.failure then
    IO.eprintln ("Error: " ++ failure.message)
  pure (Program.exitCode invocation ending).toUInt32

end CommandLine

end SampleData

def main (arguments : List String) : IO UInt32 :=
  SampleData.CommandLine.run arguments
