import CodeSearch.Description
import CodeSearch.Store.ChunkTable
import CodeSearch.Store.Error
import CodeSearch.Store.VectorTable

/-!
# Databases

A database holds settings, tables and the names of indexes. Names are compared without regard to
the case of ASCII letters, but settings belong to a name exactly as it is written.

- `Database.checkSetting`: records a setting of a table on first use, and compares it afterwards.
- `Database.createTables`: makes the chunk table of a name and the vector table that goes with it,
  as far as they do not exist. What was made before a step fails stays.
-/

namespace CodeSearch

/-- A setting of a table. -/
structure Setting where
  table : String
  key : String
  value : String
  deriving DecidableEq, Repr, Inhabited

/-- A table of a database. -/
inductive Table where
  | chunks (content : ChunkTable)
  | vectors (content : VectorTable)
  /-- A table that the database keeps for its own use. -/
  | internal (columns : List String)
  deriving DecidableEq, Repr, Inhabited

/-- The columns of a table of which indexes can be made; there are no indexes of vector tables. -/
def Table.indexColumns? : Table → Option (List String)
  | .chunks _ => some ["id", "file_name"]
  | .vectors _ => none
  | .internal columns => some columns

/-- The content of a database. -/
structure Database where
  settings : List Setting := []
  tables : List (String × Table) := []
  indexes : List String := []
  deriving DecidableEq, Repr, Inhabited

namespace Database

/-! ## Names -/

/-- The spelling under which a name is looked up. -/
def fold (name : String) : String := String.ofList (name.toList.map Char.toLower)

/-- The words that cannot name a table because they mean something in a query. -/
def reservedWords : List String :=
  ["add", "all", "alter", "and", "as", "autoincrement", "between", "case", "check", "collate",
   "commit", "constraint", "create", "default", "deferrable", "delete", "distinct", "drop", "else",
   "escape", "except", "exists", "foreign", "from", "group", "having", "if", "in", "index",
   "insert", "intersect", "into", "is", "isnull", "join", "limit", "not", "nothing", "notnull",
   "null", "on", "or", "order", "primary", "references", "returning", "select", "set", "table",
   "then", "to", "transaction", "union", "unique", "update", "using", "values", "when", "where"]

/-- The name is a reserved word, or starts as the names of the database itself do. -/
def isReserved (name : String) : Bool :=
  reservedWords.contains (fold name) || "sqlite_".toList.isPrefixOf (fold name).toList

/-- The name of the table that holds the settings. -/
def settingsName : String := "index_settings"

/-- The name of the vector table that goes with a chunk table. -/
def vectorName (name : String) : String := "vec_" ++ name

/-- The names of the indexes of a chunk table, each with its column. -/
def chunkIndexes (name : String) : List (String × String) :=
  ["id", "file_name"].map fun column => ("idx_" ++ name ++ "_" ++ column, column)

/-- The names of the tables in which a vector table keeps its content, each with its columns. -/
def internalTables (name : String) : List (String × List String) :=
  [(name ++ "_info", ["key", "value"]),
   (name ++ "_chunks", ["chunk_id", "size", "validity", "rowids"]),
   (name ++ "_rowids", ["rowid", "id", "chunk_id", "chunk_offset"]),
   (name ++ "_vector_chunks00", ["rowid", "vectors"])]

/-! ## Tables -/

/-- The table with the given name. -/
def table? (database : Database) (name : String) : Option Table :=
  if fold name = settingsName then some (.internal ["table_name", "key", "value"])
  else database.tables.lookup (fold name)

/-- The chunk table with the given name. -/
def chunks? (database : Database) (name : String) : Option ChunkTable :=
  match database.table? name with
  | some (.chunks content) => some content
  | _ => none

/-- The vector table with the given name. -/
def vectors? (database : Database) (name : String) : Option VectorTable :=
  match database.table? name with
  | some (.vectors content) => some content
  | _ => none

/-- There is an index with the given name. -/
def hasIndex (database : Database) (name : String) : Bool :=
  database.indexes.contains (fold name)

/-- Adds a table. -/
def addTable (database : Database) (name : String) (table : Table) : Database :=
  { database with tables := database.tables ++ [(fold name, table)] }

/-- Replaces the content of a table. -/
def setTable (database : Database) (name : String) (table : Table) : Database :=
  { database with
    tables := database.tables.map fun entry =>
      if entry.1 = fold name then (entry.1, table) else entry }

/-! ## Settings -/

/-- The recorded value of a setting. -/
def setting? (database : Database) (table key : String) : Option String :=
  (database.settings.find? fun setting => setting.table == table && setting.key == key).map
    Setting.value

/-- Records a setting on first use; a value recorded before must be the same. -/
def checkSetting (database : Database) (table key value : String) :
    Except StoreError Database :=
  match database.setting? table key with
  | some stored =>
    if stored = value then .ok database else .error (.settingsMismatch table key stored value)
  | none => .ok { database with settings := database.settings ++ [⟨table, key, value⟩] }

/-! ## Making tables -/

/-- A change of a database that may fail after a part of it was made. -/
abbrev Change := Database × Option DatabaseFault

/-- The next change, unless this one failed. -/
def Change.andThen (change : Change) (next : Database → Change) : Change :=
  match change.2 with
  | some _ => change
  | none => next change.1

/-- Makes an empty chunk table, unless there is a table with the name. -/
def createChunks (name : String) (database : Database) : Change :=
  if isReserved name then (database, some (.reservedName name))
  else if (database.table? name).isSome then (database, none)
  else if database.hasIndex name then (database, some (.nameTaken name))
  else (database.addTable name (.chunks {}), none)

/-- Makes an index of a column of the table `name`, unless there is one with its name. -/
def createIndex (name index column : String) (database : Database) : Change :=
  match (database.table? name).bind Table.indexColumns? with
  | none => (database, some (.nameTaken name))
  | some columns =>
    if (database.table? index).isSome then (database, some (.nameTaken index))
    else if database.hasIndex index then (database, none)
    else if !columns.contains column then (database, some (.nameTaken name))
    else ({ database with indexes := database.indexes ++ [fold index] }, none)

/-- The number of dimensions that a vector table understands: a signed number of 32 bits. -/
def understoodDimensions (dimensions : Nat) : Int :=
  (Int32.ofInt (min dimensions 0x7FFFFFFFFFFFFFFF : Nat)).toInt

/-- Makes an empty vector table, unless there is a table with the name. -/
def createVectors (name : String) (dimensions : Nat) (database : Database) : Change :=
  if (database.table? name).isSome then (database, none)
  else if database.hasIndex name then (database, some (.nameTaken name))
  else
    let understood := understoodDimensions dimensions
    if understood ≤ 0 || VectorTable.maxDimensions < understood then
      (database, some (.badDimensions dimensions))
    else
      match (internalTables name).find? fun inner =>
          (database.table? inner.1).isSome || database.hasIndex inner.1 with
      | some inner => (database, some (.nameTaken inner.1))
      | none =>
        let withTable := database.addTable name (.vectors { dimensions := understood.toNat })
        ((internalTables name).foldl
          (fun database inner => database.addTable inner.1 (.internal inner.2)) withTable, none)

/-- Makes the chunk table, its indexes and its vector table, as far as they do not exist. -/
def createTables (name : String) (dimensions : Nat) (database : Database) : Change :=
  let change := createChunks name database
  let change := (chunkIndexes name).foldl
    (fun change index => Change.andThen change (createIndex name index.1 index.2)) change
  Change.andThen change (createVectors (vectorName name) dimensions)

end Database

end CodeSearch
