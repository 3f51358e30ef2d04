import CodeSearch.CommandLine.Run
import CodeSearch.FileTree.Disk

/-!
# The program

Reads what a command needs from the disk, runs the command, writes back what has changed, and
prints. Directories are not listed here: the paths of the files to be indexed are read from the
standard input, one on each line. There is no network either, so an embedding service never
answers, and no grammar, so no file is chunked by its outline.
-/

namespace CodeSearch.CommandLine

/-- The node at a path of the disk. What is there and cannot be read is taken for a directory. -/
def readNode? (path : String) : IO (Option FileTree) := do
  try
    let bytes ← IO.FS.readBinFile path
    return some (.file (.ofBytes bytes.toList))
  catch
    | .noFileOrDirectory _ _ _ => return none
    | _ => return some .empty

/-- The files with a node at a path added, unless there is one. -/
def addNode (files : FileSystem) (path : String) (node : FileTree) : FileSystem :=
  let names := Path.names files.here path
  if (files.root.at? names).isSome then files else files.put names node

/-- The files with what the disk holds at a path added; if that is nothing, with the directory in
which it would be. -/
def addFromDisk (files : FileSystem) (path : String) : IO FileSystem := do
  match ← readNode? path with
  | some node => return addNode files path node
  | none =>
    let directory := String.intercalate "/" (Path.components path).dropLast
    match ← readNode? directory with
    | some node => return addNode files directory node
    | none => return files

/-- Everything that can be read from the standard input. -/
partial def readInput (stream : IO.FS.Stream) (read : ByteArray) : IO ByteArray := do
  let bytes ← stream.read 65536
  if bytes.isEmpty then return read else readInput stream (read ++ bytes)

/-- Writes a file if its content has changed. -/
def writeBack (before after : FileSystem) (path : String) : IO Unit := do
  let names := Path.names after.here path
  match before.root.at? names, after.root.at? names with
  | some (.file old), some (.file new) =>
    if old ≠ new then IO.FS.writeBinFile path ⟨new.toBytes.toArray⟩
  | none, some (.file new) => IO.FS.writeBinFile path ⟨new.toBytes.toArray⟩
  | _, _ => return

/-- Runs the program on the disk and gives its exit code. -/
def runOnDisk (arguments : List String) : IO UInt32 := do
  let here := Path.names [] (toString (← IO.currentDir))
  let mut files : FileSystem := { root := FileTree.empty.put .empty here, here }
  let mut written := [Config.defaultPath]
  let mut input : ByteArray := .empty
  if let .ok (.run configPath command) := Request.ofArguments arguments then
    files ← addFromDisk files (if configPath = "" then Config.defaultPath else configPath)
    if let (_, .ok config) := Config.load configPath files then
      if let .ok { file := some path, .. } := IndexPath.ofText config.databasePath then
        files ← addFromDisk files path
        written := path :: written
    match command with
    | .index _ _ =>
      let listed ← readInput (← IO.getStdin) .empty
      for path in (inputLines listed.toList).filterMap id do
        files ← addFromDisk files path
    | .interactive => input ← readInput (← IO.getStdin) .empty
    | _ => pure ()
  let around : Surroundings Unit :=
    { files
      input := input.toList
      apiKey := ← IO.getEnv "OPENAI_API_KEY"
      grammar := fun _ _ => none
      transport := fun _ state => (none, state)
      state := () }
  let outcome := run arguments around
  for path in written do
    writeBack files outcome.files path
  (← IO.getStdout).putStr outcome.output
  (← IO.getStderr).putStr outcome.errors
  return UInt32.ofNat outcome.code

end CodeSearch.CommandLine

/-- Runs the program. -/
def main (arguments : List String) : IO UInt32 :=
  CodeSearch.CommandLine.runOnDisk arguments
