import CodeSearch.Store.Database
import CodeSearch.Store.Pattern

/-!
# Handles

A handle gives access to one chunk table of a database and to the vector table that goes with it.

- `Handle.openTable`: checks the settings and makes the tables.
- `Handle.openReadOnly`: opens a chunk table of a database that may not be changed.
- `Handle.insert`: stores a record, all of it or nothing.
- `Handle.countId`, `Handle.nearest`, `Handle.keyword`, `Handle.statistics`: the queries.
-/

namespace CodeSearch

/-- What happens to records with the same identifier. -/
inductive WritePolicy where
  /-- Every record is added. -/
  | append
  /-- Records with the identifier of a new one are removed. -/
  | upsert
  deriving DecidableEq, Repr, Inhabited

/-- The name of a policy. -/
def WritePolicy.name : WritePolicy → String
  | .append => "append"
  | .upsert => "upsert"

/-- Every policy with its name. -/
def WritePolicy.choices : List (String × WritePolicy) :=
  [(name .append, .append), (name .upsert, .upsert)]

/-- What a store is opened with. -/
structure StoreOptions where
  tableName : String := "code_chunks"
  dimensions : Nat := 1536
  embedText : EmbedText := .description
  writePolicy : WritePolicy := .append
  deriving DecidableEq, Repr, Inhabited

/-- Access to one chunk table of a database. -/
structure Handle where
  tableName : String
  dimensions : Nat
  writePolicy : WritePolicy
  /-- The database may not be changed. -/
  isReadOnly : Bool := false
  deriving DecidableEq, Repr, Inhabited

/-- Counts over a chunk table. -/
structure Statistics where
  totalChunks : Nat := 0
  chunkTypes : List (String × Nat) := []
  files : List (String × Nat) := []
  deriving DecidableEq, Repr, Inhabited

/-- The counts as a document. -/
def Statistics.toJson (statistics : Statistics) : Json :=
  let counts (entries : List (String × Nat)) : Json :=
    .record (entries.map fun entry => (entry.1, .ofNat entry.2))
  .record
    [("total_chunks", .ofNat statistics.totalChunks),
     ("chunk_types", counts statistics.chunkTypes),
     ("files", counts statistics.files)]

namespace Handle

/-- A table name starts with a letter or an underscore and goes on with letters, digits and
underscores, all of ASCII. -/
def isTableName (name : String) : Bool :=
  match name.toList with
  | [] => false
  | first :: rest =>
    (first.isAlpha || first == '_') && rest.all fun c => c.isAlphanum || c == '_'

/-- Opens a chunk table of a database. The settings are recorded before the tables are made, and
stay when making them fails; the database after the attempt is given in either case. -/
def openTable (options : StoreOptions) (database : Database) :
    Database × Except StoreError Handle :=
  let name := options.tableName
  if !isTableName name then (database, .error (.invalidTableName name))
  else
    match database.checkSetting name "dimensions" (Text.decimal options.dimensions) with
    | .error error => (database, .error error)
    | .ok database =>
      match database.checkSetting name "embed_text" options.embedText.name with
      | .error error => (database, .error error)
      | .ok database =>
        match Database.createTables name options.dimensions database with
        | (database, some fault) => (database, .error (.database fault))
        | (database, none) =>
          (database, .ok
            { tableName := name
              dimensions := options.dimensions
              writePolicy := options.writePolicy })

/-- Opens a chunk table of a database that may not be changed. Whatever opening needs has to be
there. -/
def openReadOnly (options : StoreOptions) (database : Database) : Except StoreError Handle :=
  let (after, outcome) := openTable options database
  if after = database then outcome.map fun handle => { handle with isReadOnly := true }
  else .error (.database .readOnly)

/-- The name of the vector table of a handle. -/
def vectorName (handle : Handle) : String := Database.vectorName handle.tableName

/-- The chunk table of a handle. -/
def chunkTable (handle : Handle) (database : Database) : ChunkTable :=
  (database.chunks? handle.tableName).getD {}

/-- The vector table of a handle. Its name may belong to a chunk table. -/
def vectorTable (handle : Handle) (database : Database) : Except StoreError VectorTable :=
  match database.vectors? handle.vectorName with
  | some table => .ok table
  | none => .error (.database (.nameTaken handle.vectorName))

/-! ## Storing -/

/-- A chunk table and its vector table after a record was stored under the next number. Under
`upsert` the records with its identifier are removed first: their vectors, which are found through
their rows, and then the rows. -/
def storeIn (policy : WritePolicy) (record : Record) (chunks : ChunkTable) (vectors : VectorTable) :
    ChunkTable × VectorTable :=
  let (chunks, vectors) :=
    match policy with
    | .append => (chunks, vectors)
    | .upsert =>
      let vectors := vectors.remove ((chunks.rowsOf record.id).map Row.number)
      (chunks.removeId record.id, vectors)
  let number := chunks.nextNumber
  (chunks.add record.toEntry, vectors.add number (Vector.encode record.embedding))

/-- Stores a record in the table. A failure changes nothing. -/
def insert (handle : Handle) (record : Record) (database : Database) :
    Except StoreError Database := do
  if record.embedding.length ≠ handle.dimensions then
    throw (.dimensionMismatch handle.dimensions record.embedding.length)
  if handle.isReadOnly then
    throw (.database .readOnly)
  let vectors ← handle.vectorTable database
  if record.embedding.length ≠ vectors.dimensions then
    throw (.database (.vectorLength vectors.dimensions record.embedding.length))
  let (chunks, vectors) :=
    storeIn handle.writePolicy record (handle.chunkTable database) vectors
  return (database.setTable handle.tableName (.chunks chunks)).setTable handle.vectorName
    (.vectors vectors)

/-! ## Queries -/

/-- The number of records with the given identifier. -/
def countId (handle : Handle) (id : String) (database : Database) : Nat :=
  ((handle.chunkTable database).rowsOf id).length

/-- The record of a row, with its vector. -/
def recordOf (vectors : VectorTable) (row : Row) : Record :=
  { row.entry with embedding := ((vectors.bytes? row.number).map Vector.decode).getD [] }

/-- The largest number of records that a search for near vectors gives. -/
def maxNearest : Nat := 4096

/-- The name that stands for the candidates in the query for near vectors. It hides a table. -/
def candidatesName : String := "knn"

/-- The records whose vectors are nearest to a query, nearest first. Nothing is looked at when none
are asked for. -/
def nearest (handle : Handle) (query : Vector) (limit : Nat) (database : Database) :
    Except StoreError (List Record) := do
  if limit = 0 then
    return []
  if query.length ≠ handle.dimensions then
    throw (.dimensionMismatch handle.dimensions query.length)
  if Database.fold handle.tableName = candidatesName then
    throw (.database (.hiddenTable handle.tableName))
  let vectors ← handle.vectorTable database
  if query.length ≠ vectors.dimensions then
    throw (.database (.queryLength vectors.dimensions query.length))
  let chunks := handle.chunkTable database
  let numbers := vectors.nearest query (min limit maxNearest)
  return (numbers.filterMap chunks.row?).map (recordOf vectors)

/-- The limit of a keyword search: a limit of `2 ^ 63` or more is none. -/
def takeLimit {α : Type} (limit : Nat) (items : List α) : List α :=
  if limit < 0x8000000000000000 then items.take limit else items

/-- The code or the name of an entry matches a pattern. -/
def entryMatches (pattern : List Char) (entry : Entry) : Bool :=
  Pattern.matchesText pattern entry.code.toList ||
    Pattern.matchesText pattern entry.chunkName.toList

/-- The records whose code or name contains a keyword, in order of insertion. -/
def keyword (handle : Handle) (keyword : String) (limit : Nat) (database : Database) :
    Except StoreError (List Record) := do
  if limit = 0 then
    return []
  let pattern := Pattern.containing keyword.toList
  let chunks := handle.chunkTable database
  if Pattern.isTooLong pattern && !chunks.rows.isEmpty then
    throw (.database .patternTooLong)
  let vectors ← handle.vectorTable database
  let found := chunks.rows.filter fun row => entryMatches pattern row.entry
  return (takeLimit limit found).map (recordOf vectors)

/-- How many records there are, of which types and from which files. -/
def statistics (handle : Handle) (database : Database) : Statistics :=
  let chunks := handle.chunkTable database
  { totalChunks := chunks.rows.length
    chunkTypes := chunks.tally Entry.chunkType
    files := chunks.tally Entry.fileName }

end Handle

end CodeSearch
