import CodeSearch.Store.Handle

/-!
# What indexing and searching need of a store

`ChunkStore ε σ` is a store whose content is a value of `σ` and whose errors are values of `ε`.
Storing a record gives the new content in any case, so that a store may also fail half way.

- `Handle.store`: an open chunk table is such a store, and its content is a database. A record
  that it refuses leaves no trace.
-/

namespace CodeSearch

/-- The operations of a store with content `σ` and errors `ε`. -/
structure ChunkStore (ε σ : Type) where
  append : Record → σ → Except ε Unit × σ
  nearest : Vector → Nat → σ → Except ε (List Record)
  keyword : String → Nat → σ → Except ε (List Record)
  statistics : σ → Except ε Statistics

namespace Handle

/-- Stores a record, or gives the reason and the unchanged database. -/
def append (handle : Handle) (record : Record) (database : Database) :
    Except StoreError Unit × Database :=
  match handle.insert record database with
  | .ok database => (.ok (), database)
  | .error error => (.error error, database)

/-- An open chunk table as a store. -/
def store (handle : Handle) : ChunkStore StoreError Database where
  append := handle.append
  nearest := handle.nearest
  keyword := handle.keyword
  statistics database := .ok (handle.statistics database)

theorem append_of_insert_eq_ok {handle : Handle} {record : Record} {before after : Database}
    (h : handle.insert record before = .ok after) :
    handle.append record before = (.ok (), after) := by
  simp [append, h]

theorem append_of_insert_eq_error {handle : Handle} {record : Record} {database : Database}
    {error : StoreError} (h : handle.insert record database = .error error) :
    handle.append record database = (.error error, database) := by
  simp [append, h]

end Handle

end CodeSearch
