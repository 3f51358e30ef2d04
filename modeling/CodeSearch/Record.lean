import CodeSearch.Json.Fields
import CodeSearch.Json.Printer
import CodeSearch.Json.Reader
import CodeSearch.Vector

/-!
# Records

A record is one stored part of a chunk together with its vector.

- `Entry`: what a record says about its part; `Record` adds the vector.
- `Metadata`: the node type, and which of how many parts it is; stored as JSON text.
- `Entry.toJson`, `Entry.ofJson?`, `Metadata.toJson`, `Metadata.ofText?`: the JSON forms. The vector
  is not written.
-/

namespace CodeSearch

/-- What a record says about its part of a chunk. -/
structure Entry where
  id : String
  filePath : String
  fileName : String
  chunkType : String
  chunkName : String
  code : String
  description : Option String
  startLine : Int32
  endLine : Int32
  totalLines : Int32
  fileSize : Int32
  metadata : String
  deriving DecidableEq, Repr, Inhabited

/-- A stored part of a chunk with its vector. -/
structure Record extends Entry where
  embedding : Vector
  deriving DecidableEq, Repr, Inhabited

/-- What is stored beside the code of a part. -/
structure Metadata where
  nodeType : String
  partIndex : UInt64
  totalParts : UInt64
  deriving DecidableEq, Repr, Inhabited

namespace Metadata

/-- The metadata as a document. -/
def toJson (metadata : Metadata) : Json :=
  .record
    [("node_type", .text metadata.nodeType),
     ("part_index", .ofNat metadata.partIndex.toNat),
     ("total_parts", .ofNat metadata.totalParts.toNat)]

/-- Reads metadata from a document. -/
def ofJson? (document : Json) : Option Metadata := do
  let field ← document.fields? ["node_type", "part_index", "total_parts"]
  let nodeType ← Json.required Json.asText? (field "node_type")
  let partIndex ← Json.required Json.asUInt64? (field "part_index")
  let totalParts ← Json.required Json.asUInt64? (field "total_parts")
  return { nodeType, partIndex, totalParts }

/-- The text that is stored. -/
def toText (metadata : Metadata) : String := metadata.toJson.compact

/-- Reads metadata from a stored text. -/
def ofText? (text : String) : Option Metadata := (Json.ofText? text).bind ofJson?

end Metadata

namespace Entry

/-- The names of the fields, in the order in which they are written. -/
def fieldNames : List String :=
  ["id", "file_path", "file_name", "chunk_type", "chunk_name", "code", "description",
   "start_line", "end_line", "total_lines", "file_size", "metadata"]

/-- The entry as a document. -/
def toJson (entry : Entry) : Json :=
  .record
    [("id", .text entry.id),
     ("file_path", .text entry.filePath),
     ("file_name", .text entry.fileName),
     ("chunk_type", .text entry.chunkType),
     ("chunk_name", .text entry.chunkName),
     ("code", .text entry.code),
     ("description", .optionalText entry.description),
     ("start_line", .ofInt entry.startLine.toInt),
     ("end_line", .ofInt entry.endLine.toInt),
     ("total_lines", .ofInt entry.totalLines.toInt),
     ("file_size", .ofInt entry.fileSize.toInt),
     ("metadata", .text entry.metadata)]

/-- Reads an entry from a document. A missing description is none. -/
def ofJson? (document : Json) : Option Entry := do
  let field ← document.fields? fieldNames
  let text (name : String) := Json.required Json.asText? (field name)
  let int (name : String) := Json.required Json.asInt32? (field name)
  return {
    id := ← text "id"
    filePath := ← text "file_path"
    fileName := ← text "file_name"
    chunkType := ← text "chunk_type"
    chunkName := ← text "chunk_name"
    code := ← text "code"
    description := ← Json.withDefault none Json.asOptionalText? (field "description")
    startLine := ← int "start_line"
    endLine := ← int "end_line"
    totalLines := ← int "total_lines"
    fileSize := ← int "file_size"
    metadata := ← text "metadata" }

end Entry

namespace Record

/-- The record as a document, without its vector. -/
def toJson (record : Record) : Json := record.toEntry.toJson

/-- Reads a record from a document. Its vector is empty. -/
def ofJson? (document : Json) : Option Record :=
  (Entry.ofJson? document).map fun entry => { entry with embedding := [] }

/-- Reads a record from a text. -/
def ofText? (text : String) : Option Record := (Json.ofText? text).bind ofJson?

end Record

end CodeSearch
