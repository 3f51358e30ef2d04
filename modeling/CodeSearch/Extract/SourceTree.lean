import CodeSearch.Extract.Strategy
import CodeSearch.FileTree.SourceFiles

/-!
# Chunks of files and directories

- `Grammar`: the outlines that the grammars make of texts.
- `chunkFile`: the chunks of one file.
- `chunkDirectory`: the chunks of the source files below a directory. A file without chunks for
  whatever reason is noted and does not affect the others.
-/

namespace CodeSearch

/-- The outlines that the grammars of the languages make. There is none of a text that cannot be
parsed. -/
abbrev Grammar := Language → String → Option Outline

/-- The outline of a file, if there is a language for it and the text can be parsed. -/
def Grammar.outline? (grammar : Grammar) (path content : String) : Option Outline :=
  (Language.ofPath? path).bind fun language => grammar language content

/-- How files are turned into chunks. -/
structure Chunker where
  strategy : Strategy
  grammar : Grammar

namespace Chunker

/-- The chunks of a text that stands in the file with the given path. -/
def chunkText (chunker : Chunker) (path content : String) : Except ExtractError (List Chunk) :=
  chunker.strategy.extract path content (chunker.grammar.outline? path content)

/-- The chunks of a file. They name it with `/` between the components of its path. -/
def chunkFile (chunker : Chunker) (system : FileSystem) (path : String) :
    Except ExtractError (List Chunk) :=
  let shown := Path.normalizeSeparators path
  match system.readText? path with
  | some content => chunker.chunkText shown content
  | none => .error (.unreadable shown)

end Chunker

/-- The chunks of the files below a directory: the files, those of them that could not be chunked,
and the chunks of the others. -/
structure SourceChunks where
  files : List String := []
  failed : List String := []
  chunks : List Chunk := []
  deriving DecidableEq, Repr, Inhabited

namespace SourceChunks

/-- Adds what became of the next file. -/
def add (found : SourceChunks) (path : String) (outcome : Except ExtractError (List Chunk)) :
    SourceChunks :=
  match outcome with
  | .ok chunks =>
    { found with files := found.files ++ [path], chunks := found.chunks ++ chunks }
  | .error _ =>
    { found with files := found.files ++ [path], failed := found.failed ++ [path] }

end SourceChunks

/-- The chunks of the source files below a root. -/
def Chunker.chunkDirectory (chunker : Chunker) (system : FileSystem) (root : String)
    (extensions : List String) : SourceChunks :=
  (system.sourceFiles extensions root).foldl
    (fun found path => found.add path (chunker.chunkFile system path)) {}

end CodeSearch
