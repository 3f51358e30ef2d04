import CodeSearch.Chunk
import CodeSearch.Extract.Block
import CodeSearch.Extract.Declaration

/-!
# Extraction line by line

Chunks are found by the first line of a declaration and bounded by counting braces. No grammar is
needed, so any file can be read this way.

- `declarationsOf`: the declarations that a list of patterns finds, one line after the other.
- `importsOf`: the lines that are imports.
- `lineChunks`: functions, then components, then imports.
-/

namespace CodeSearch.Extract

/-- The text of the lines from `first` to `last`, both included. -/
def linesText (lines : List (List Char)) (first last : Nat) : String :=
  String.ofList (Text.joinRows ((lines.drop first).take (last + 1 - first)))

/-- The chunk of the declaration that starts at line `index`. -/
def blockChunk (kind : ChunkKind) (lines : List (List Char)) (file : FileInfo) (index : Nat)
    (declaration : List Char × String) : Chunk :=
  let last := blockEnd lines index
  Chunk.named kind.word (some (String.ofList declaration.1)) (linesText lines index last)
    index last declaration.2 file

/-- The chunks of the declarations that the patterns find, at most one per line. -/
def declarationsOf (kind : ChunkKind) (patterns : List LinePattern) (lines : List (List Char))
    (file : FileInfo) : List Chunk :=
  lines.zipIdx.filterMap fun (line, index) =>
    (declaration? patterns line).map (blockChunk kind lines file index)

/-- The chunks of the lines that are imports. -/
def importsOf (lines : List (List Char)) (file : FileInfo) : List Chunk :=
  lines.zipIdx.filterMap fun (line, index) =>
    let trimmed := Text.trim line
    if isImport trimmed then
      some (Chunk.named ChunkKind.importing.word none (String.ofList trimmed) index index
        "import_statement" file)
    else none

/-- The chunks of a text that stands in the given file. -/
def lineChunksOf (file : FileInfo) (text : List Char) : List Chunk :=
  let lines := Text.rows text
  declarationsOf .function functionPatterns lines file ++
    declarationsOf .component componentPatterns lines file ++ importsOf lines file

/-- The chunks of a file, found line by line. -/
def lineChunks (path content : String) : List Chunk :=
  lineChunksOf (FileInfo.of path content) content.toList

end CodeSearch.Extract
