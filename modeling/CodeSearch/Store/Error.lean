import CodeSearch.Text.Decimal
import CodeSearch.Text.Quoted

/-!
# What can go wrong in a store

- `DatabaseFault`: what the database under a store refuses.
- `StoreError`: why a store cannot be opened or does not answer.
- `StoreError.trace`: the texts of an error and of its causes.
-/

namespace CodeSearch

/-- What the database under a store refuses. -/
inductive DatabaseFault where
  /-- The file cannot be opened or created. -/
  | cannotOpen (path : String)
  /-- The path holds U+0000, after so many bytes. -/
  | badPath (position : Nat)
  /-- A locator names a host other than this one. -/
  | badHost (host : String)
  /-- A locator asks for a mode that there is not; the kind is `access` or `cache`. -/
  | unknownMode (kind mode : String)
  /-- A locator asks for more than it asked for before. -/
  | modeNotAllowed (mode : String)
  /-- A locator names a way to reach files that there is not. -/
  | unknownDriver (name : String)
  /-- The file that a new file is to be like cannot be seen. -/
  | noModel
  /-- The file is a directory. -/
  | unreadable
  /-- A file stands where the database keeps a log of changes, and cannot be removed. -/
  | logInTheWay
  /-- The journal of a change cannot be written. -/
  | noJournal
  /-- The database may not be changed. -/
  | readOnly
  /-- The file holds something else. -/
  | notADatabase
  /-- The name means something in a query, or is kept for the database itself. -/
  | reservedName (name : String)
  /-- The name belongs to something of another kind. -/
  | nameTaken (name : String)
  /-- A vector table cannot have this number of dimensions. -/
  | badDimensions (dimensions : Nat)
  /-- A stored vector of another length than the vectors of the table. -/
  | vectorLength (expected actual : Nat)
  /-- A query vector of another length than the vectors of the table. -/
  | queryLength (expected actual : Nat)
  /-- A keyword that is too long to search for. -/
  | patternTooLong
  /-- The name of the table means something else in the query for near vectors. -/
  | hiddenTable (name : String)
  deriving DecidableEq, Repr

/-- Why a store cannot be opened or does not answer. -/
inductive StoreError where
  | database (fault : DatabaseFault)
  | invalidTableName (name : String)
  /-- A setting of the table has another value than the one asked for. -/
  | settingsMismatch (table key stored requested : String)
  /-- A vector of another length than the store was opened with. -/
  | dimensionMismatch (expected actual : Nat)
  deriving DecidableEq, Repr

/-- The query for the rows of a table that are near to a vector, up to its first column, and the
rest of it. -/
def nearestQuery (table : String) : String × String :=
  let line := "\n            "
  let inner := line ++ "    "
  (line ++ "WITH knn AS (" ++
    inner ++ "SELECT rowid, distance" ++
    inner ++ "FROM vec_" ++ table ++
    inner ++ "WHERE embedding MATCH ?1 AND k = ?2" ++
    line ++ ")" ++
    line ++ "SELECT ",
   "c.seq, c.id, c.file_path, c.file_name, c.chunk_type, c.chunk_name, c.code, c.description, " ++
    "c.start_line, c.end_line, c.total_lines, c.file_size, c.metadata" ++
    line ++ "FROM knn" ++
    line ++ "JOIN " ++ table ++ " c ON c.seq = knn.rowid" ++
    line ++ "ORDER BY knn.distance ASC" ++
    line)

/-- The text of a fault. -/
def DatabaseFault.message : DatabaseFault → String
  | .cannotOpen path => "unable to open database file: " ++ path
  | .badPath position =>
    "nul byte found in provided data at position: " ++ Text.decimal position
  | .badHost host => "invalid uri authority: " ++ host
  | .unknownMode kind mode => "no such " ++ kind ++ " mode: " ++ mode
  | .modeNotAllowed mode => "access mode not allowed: " ++ mode
  | .unknownDriver name => "no such vfs: " ++ name
  | .noModel | .unreadable | .logInTheWay => "disk I/O error"
  | .noJournal => "unable to open database file"
  | .readOnly => "attempt to write a readonly database"
  | .notADatabase => "file is not a database"
  | .reservedName name => "object name not allowed: " ++ name
  | .nameTaken name => "object name already in use: " ++ name
  | .badDimensions dimensions =>
    "vector table cannot have " ++ Text.decimal dimensions ++ " dimensions"
  | .vectorLength expected actual =>
    "Dimension mismatch for inserted vector for the \"embedding\" column. Expected " ++
      Text.decimal expected ++ " dimensions but received " ++ Text.decimal actual ++ "."
  | .queryLength expected actual =>
    "Dimension mismatch for query vector for the \"embedding\" column. Expected " ++
      Text.decimal expected ++ " dimensions but received " ++ Text.decimal actual ++ "."
  | .patternTooLong => "LIKE or GLOB pattern too complex"
  | .hiddenTable name =>
    let (start, rest) := nearestQuery name
    "no such column: c.seq in " ++ start ++ rest ++ " at offset " ++
      Text.decimal start.utf8ByteSize

/-- The class of a fault. -/
def DatabaseFault.reason : DatabaseFault → String
  | .cannotOpen _ | .noJournal => "Error code 14: Unable to open the database file"
  | .modeNotAllowed _ => "Error code 3: Access permission denied"
  | .noModel => "Error code 1802: Error invoking fstat to get file metadata"
  | .unreadable => "Error code 266: Error reading from disk"
  | .logInTheWay => "Error code 2570: I/O error within xDelete of a VFS object"
  | .readOnly => "Error code 8: Attempt to write a readonly database"
  | .badPath position => message (.badPath position)
  | .notADatabase => "Error code 26: File opened that is not a database file"
  | _ => "Error code 1: SQL error or missing database"

/-- The text of an error. -/
def StoreError.message : StoreError → String
  | .database fault => "database error: " ++ fault.message
  | .invalidTableName name => "invalid table name: " ++ Text.quote name
  | .settingsMismatch table key stored requested =>
    "index " ++ table ++ " was created with " ++ key ++ " = " ++ stored ++ ", but " ++ requested ++
      " was requested"
  | .dimensionMismatch expected actual =>
    "embedding has " ++ Text.decimal actual ++ " dimensions, table expects " ++
      Text.decimal expected

/-- The text of an error, and then of what caused it, each the cause of the one before. -/
def StoreError.trace (error : StoreError) : List String :=
  match error with
  | .database fault => [error.message, fault.message, fault.reason]
  | _ => [error.message]

end CodeSearch
