import CodeSearch.Store.Database

/-!
# Databases as bytes

A snapshot holds a whole database: a byte that occurs in no text, and then a JSON document.

- `Database.toJson`, `Database.ofJson?`: a database as a document, and back.
- `FileContent.toBytes`, `FileContent.ofBytes`: what a file holds as bytes, and back. Bytes that are
  no snapshot stand for themselves.
-/

namespace CodeSearch

namespace Json

/-- A natural number below `2 ^ 64`. -/
def asNat? (document : Json) : Option Nat := (asUInt64? document).map UInt64.toNat

/-- A member of an object. -/
def get? (document : Json) (name : String) : Option Json :=
  match document with
  | .object members => member? members name
  | _ => none

/-- The items of a list in a member of an object. -/
def getList? {α : Type} (read : Json → Option α) (document : Json) (name : String) :
    Option (List α) :=
  (document.get? name).bind (asList? read)

end Json

namespace Setting

def toJson (setting : Setting) : Json :=
  .texts [setting.table, setting.key, setting.value]

def ofJson? (document : Json) : Option Setting := do
  match ← Json.asList? Json.asText? document with
  | [table, key, value] => return { table, key, value }
  | _ => none

end Setting

namespace Row

def toJson (row : Row) : Json :=
  .record [("number", .ofNat row.number), ("entry", row.entry.toJson)]

def ofJson? (document : Json) : Option Row := do
  let number ← (document.get? "number").bind Json.asNat?
  let entry ← (document.get? "entry").bind Entry.ofJson?
  return { number, entry }

end Row

namespace ChunkTable

def toJson (table : ChunkTable) : Json :=
  .record [("rows", .array (table.rows.map Row.toJson)), ("last", .ofNat table.lastNumber)]

def ofJson? (document : Json) : Option ChunkTable := do
  let rows ← document.getList? Row.ofJson? "rows"
  let lastNumber ← (document.get? "last").bind Json.asNat?
  return { rows, lastNumber }

end ChunkTable

namespace Slot

def toJson (slot : Slot) : Json :=
  .record
    [("number", .ofNat slot.number),
     ("bytes", .array (slot.bytes.map fun byte => .ofNat byte.toNat))]

def ofJson? (document : Json) : Option Slot := do
  let number ← (document.get? "number").bind Json.asNat?
  let bytes ← document.getList? Json.asNat? "bytes"
  return { number, bytes := bytes.map UInt8.ofNat }

end Slot

namespace VectorTable

/-- A free place of a block is `null`. -/
def placeToJson : Option Slot → Json
  | some slot => slot.toJson
  | none => .null

def placeOfJson? : Json → Option (Option Slot)
  | .null => some none
  | document => (Slot.ofJson? document).map some

def toJson (table : VectorTable) : Json :=
  .record
    [("dimensions", .ofNat table.dimensions),
     ("blocks", .array (table.blocks.map fun block => .array (block.map placeToJson)))]

def ofJson? (document : Json) : Option VectorTable := do
  let dimensions ← (document.get? "dimensions").bind Json.asNat?
  let blocks ← document.getList? (Json.asList? placeOfJson?) "blocks"
  return { dimensions, blocks }

end VectorTable

namespace Table

def toJson : Table → Json
  | .chunks content => .record [("chunks", content.toJson)]
  | .vectors content => .record [("vectors", content.toJson)]
  | .internal columns => .texts columns

def ofJson? (document : Json) : Option Table :=
  match document.get? "chunks", document.get? "vectors" with
  | some content, _ => (ChunkTable.ofJson? content).map .chunks
  | none, some content => (VectorTable.ofJson? content).map .vectors
  | none, none => (Json.asList? Json.asText? document).map .internal

end Table

namespace Database

def toJson (database : Database) : Json :=
  .record
    [("settings", .array (database.settings.map Setting.toJson)),
     ("tables", .array (database.tables.map fun entry =>
       .record [("name", .text entry.1), ("table", entry.2.toJson)])),
     ("indexes", .texts database.indexes)]

/-- A table and its name. -/
def namedTable? (document : Json) : Option (String × Table) := do
  let name ← (document.get? "name").bind Json.asText?
  let table ← (document.get? "table").bind Table.ofJson?
  return (name, table)

def ofJson? (document : Json) : Option Database := do
  let settings ← document.getList? Setting.ofJson? "settings"
  let tables ← document.getList? namedTable? "tables"
  let indexes ← document.getList? Json.asText? "indexes"
  return { settings, tables, indexes }

/-- The first byte of a snapshot. -/
def snapshotMark : UInt8 := 0xFF

/-- The snapshot of a database. -/
def toBytes (database : Database) : List UInt8 :=
  snapshotMark :: Text.Utf8.encode database.toJson.compact.toList

/-- The database in a snapshot. -/
def ofBytes? : List UInt8 → Option Database
  | mark :: bytes => if mark = snapshotMark then (Json.ofBytes? bytes).bind ofJson? else none
  | [] => none

end Database

end CodeSearch
