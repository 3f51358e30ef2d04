import CodeSearch.Extract.SourceTree
import CodeSearch.Number.Shortest
import CodeSearch.Search

/-!
# Reports

The texts that the commands print.

- `statisticsReport`, `hitsReport`, `searchReport`, `keywordReport`, `sourcesReport`: results.
- `Failure`: an error with its causes; `Failure.report` puts each on a line of its own, and
  `Failure.line` all of them on one.
-/

namespace CodeSearch.CommandLine

/-- Lines, each with a line feed after it. -/
def unlines (lines : List String) : String :=
  String.join (lines.map fun line => line ++ "\n")

/-- A line of one character. -/
def rule (c : Char) (width : Nat) : String := String.ofList (List.replicate width c)

/-- The lines from the first to the last one of a stored part. -/
def lineRange (entry : Entry) : String :=
  Text.decimalInt entry.startLine.toInt ++ "-" ++ Text.decimalInt entry.endLine.toInt

/-! ## Statistics -/

/-- Counts in braces, each behind its name in quotes. -/
def countsText (counts : List (String × Nat)) : String :=
  "\x7b" ++
    String.intercalate ", " (counts.map fun count =>
      Text.quote count.1 ++ ": " ++ Text.decimal count.2) ++ "\x7d"

/-- The report of the statistics of an index. -/
def statisticsReport (statistics : Statistics) : String :=
  unlines
    ["",
     "Database Statistics:",
     "Total chunks: " ++ Text.decimal statistics.totalChunks,
     "Chunk types: " ++ countsText statistics.chunkTypes,
     "Files indexed: " ++ Text.decimal statistics.files.length]

/-! ## Searches -/

/-- The number of lines of code that are shown of a hit. -/
def previewLines : Nat := 5

/-- The report of one hit. -/
def hitLines (number : Nat) (hit : Hit) : List String :=
  let record := hit.record
  let code := (Text.rows record.code.toList).map String.ofList
  ["",
   Text.decimal number ++ ". " ++ record.chunkName ++ " (" ++ record.chunkType ++ ")",
   "   File: " ++ record.fileName,
   "   Lines: " ++ lineRange record.toEntry,
   "   Similarity: " ++ hit.similarity.fixed 3,
   "   Code preview:"] ++
  (code.take previewLines).map (fun line => "   " ++ line) ++
  (if previewLines < code.length then ["   ..."] else []) ++
  [rule '-' 40]

/-- The report of the hits of a search. -/
def hitsReport (hits : List Hit) : String :=
  if hits.isEmpty then unlines ["No results found."]
  else
    unlines
      (["", "Found " ++ Text.decimal hits.length ++ " results:", rule '=' 80] ++
       hits.zipIdx.flatMap fun hit => hitLines (hit.2 + 1) hit.1)

/-- What is printed before a search. -/
def searchReport (query : String) : String :=
  unlines ["Searching for: '" ++ query ++ "'"]

/-- The report of a keyword search. -/
def keywordReport (keyword : String) (records : List Record) : String :=
  unlines
    (("Found " ++ Text.decimal records.length ++ " matches for '" ++ keyword ++ "':") ::
     records.map fun record =>
       "  " ++ record.chunkName ++ " (" ++ record.chunkType ++ ") " ++ record.filePath ++ ":" ++
         lineRange record.toEntry)

/-! ## Indexing -/

/-- The number of files that are listed. -/
def listedFiles : Nat := 5

/-- The number of characters of code that are shown of the first chunk. -/
def previewLength : Nat := 100

/-- What is printed about the first chunk. -/
def firstChunkLines (chunk : Chunk) : List String :=
  ["First chunk details:",
   "  Type: " ++ chunk.kind,
   "  Name: " ++ chunk.name,
   "  File: " ++ chunk.file.path,
   "  Lines: " ++ Text.decimal chunk.startLine ++ "-" ++ Text.decimal chunk.endLine,
   "  Code preview: " ++ String.ofList (chunk.code.toList.take previewLength) ++ "..."]

/-- The report of the files below `root` and of their chunks. -/
def sourcesReport (root : String) (found : SourceChunks) : String :=
  unlines
    (["Starting codebase indexing from " ++ root ++ "...",
      "Found " ++ Text.decimal found.files.length ++ " source files:"] ++
     (found.files.take listedFiles).map (fun file => "  - " ++ file) ++
     (if listedFiles < found.files.length then
        ["  ... and " ++ Text.decimal (found.files.length - listedFiles) ++ " more files"]
      else []) ++
     (if found.failed.isEmpty then []
      else
        ["Skipped " ++ Text.decimal found.failed.length ++
          " files that could not be chunked"]) ++
     ["Chunks found: " ++ Text.decimal found.chunks.length] ++
     (match found.chunks with
      | first :: _ => firstChunkLines first
      | [] => []))

/-- What is printed after indexing. -/
def indexedReport (stored : Nat) : String :=
  unlines ["Indexing completed! Indexed " ++ Text.decimal stored ++ " chunks"]

/-! ## Failures -/

/-- An error: its text, and the texts of what caused it, each the cause of the one before. -/
structure Failure where
  message : String
  causes : List String := []
  deriving DecidableEq, Repr, Inhabited

namespace Failure

/-- The failure with these texts, the first of which is its own. -/
def ofTrace : List String → Failure
  | [] => { message := "" }
  | message :: causes => { message, causes }

/-- A failure that was caused by another error. -/
def causedBy (message : String) (trace : List String) : Failure := { message, causes := trace }

/-- A text behind a mark; its further lines are indented by as much as the first one. -/
def indented (mark : String) (text : String) : String :=
  let margin := "\n" ++ rule ' ' mark.length
  mark ++ String.intercalate margin ((Text.rows text.toList).map String.ofList)

/-- The mark of a numbered cause. -/
def numberMark (number : Nat) : String :=
  let numeral := Text.decimal number
  rule ' ' (5 - numeral.length) ++ numeral ++ ": "

/-- The causes, numbered if there is more than one. -/
def causeLines : List String → List String
  | [] => []
  | [cause] => [indented "    " cause]
  | causes => causes.zipIdx.map fun cause => indented (numberMark cause.2) cause.1

/-- The report of a failure that ends a command. -/
def report (failure : Failure) : String :=
  let causes := causeLines failure.causes
  unlines
    (("Error: " ++ failure.message) ::
     (if causes.isEmpty then [] else "" :: "Caused by:" :: causes))

/-- The report of a failure on one line. -/
def line (failure : Failure) : String :=
  unlines ["Error: " ++ String.intercalate ": " (failure.message :: failure.causes)]

end Failure

end CodeSearch.CommandLine
