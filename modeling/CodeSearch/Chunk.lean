import CodeSearch.Path
import CodeSearch.Text.Blank
import CodeSearch.Text.Lines
import CodeSearch.Text.Utf8

/-!
# Chunks

A chunk is a structural unit of one source file: a function, a component or an import.

- `FileInfo`: what every chunk says about the file it comes from.
- `Chunk`: the unit itself, with the lines it covers, counted from 0 and both included.
- `Chunk.named`: a chunk whose name is never blank.
-/

namespace CodeSearch

/-- What a chunk says about its file. -/
structure FileInfo where
  path : String
  name : String
  totalLines : Nat
  size : Nat
  deriving DecidableEq, Repr, Inhabited

/-- A structural unit of a file. -/
structure Chunk where
  kind : String
  name : String
  code : String
  startLine : Nat
  endLine : Nat
  nodeType : String
  file : FileInfo
  deriving DecidableEq, Repr, Inhabited

/-- The kinds of chunks that the extractors find. -/
inductive ChunkKind where
  | function
  | component
  | importing
  deriving DecidableEq, Repr

/-- The word for a kind of chunk. -/
def ChunkKind.word : ChunkKind → String
  | .function => "function"
  | .component => "component"
  | .importing => "import"

/-- The file with the given path and content. The path has `/` between components; a path that
names no file is its own name. A trailing line feed counts as one more, empty line, and the size
is in bytes. -/
def FileInfo.of (path content : String) : FileInfo :=
  let path := Path.normalizeSeparators path
  { path
    name := (Path.fileName? path).getD path
    totalLines := (Text.rows content.toList).length
    size := Text.Utf8.size content.toList }

namespace Chunk

/-- The name of a unit for which no name was found. -/
def unnamed : String := "unnamed"

/-- The name that a chunk gets: the one found, unless it is missing or blank. -/
def nameOr (found : Option String) : String :=
  match found with
  | some name => if Text.isBlankText name.toList then unnamed else name
  | none => unnamed

/-- A chunk of the given file. -/
def named (kind : String) (name : Option String) (code : String) (startLine endLine : Nat)
    (nodeType : String) (file : FileInfo) : Chunk :=
  { kind, name := nameOr name, code, startLine, endLine, nodeType, file }

theorem nameOr_not_blank (found : Option String) :
    Text.isBlankText (nameOr found).toList = false := by
  unfold nameOr
  split
  · split
    · decide
    · next h => simpa using h
  · decide

end Chunk

end CodeSearch
