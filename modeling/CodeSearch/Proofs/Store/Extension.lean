import CodeSearch.Proofs.Store.Contents
import CodeSearch.Proofs.Store.Growth

/-!
# What opening and storing leave alone

Opening a table only ever adds to a database, whether it succeeds or not, and storing a record
changes no table but the two of its handle. So a table keeps its content whatever is done with
others in the same database.

- `Database.Extends`: everything that was there is still there; `openTable_extends`.
- `Database.table?_congr`, `Database.fold_vectorName_inj`: spellings of one name.
- `Handle.insert_ok`: all that storing a record needs and does.
- `Handle.append_other`: storing through the handle of another table.
-/

namespace CodeSearch

namespace Database

/-! ## Spellings -/

/-- Two spellings of a name mean the same table. -/
theorem table?_congr {name other : String} (h : fold name = fold other) (database : Database) :
    database.table? name = database.table? other := by
  rw [table?, table?, h]

theorem setTable_congr {name other : String} (h : fold name = fold other) (database : Database)
    (table : Table) : database.setTable name table = database.setTable other table := by
  rw [setTable, setTable, h]

theorem fold_append (a b : String) : fold (a ++ b) = fold a ++ fold b := by
  rw [fold, fold, fold, String.toList_append, List.map_append, String.ofList_append]

/-- Vector tables are told apart as their chunk tables are. -/
theorem fold_vectorName_inj {name other : String} :
    fold (vectorName name) = fold (vectorName other) ↔ fold name = fold other := by
  rw [vectorName, vectorName, fold_append, fold_append, String.append_right_inj]

/-! ## Adding to a database -/

/-- Everything that was there is still there: tables with their content, and settings. -/
structure Extends (before after : Database) : Prop where
  tables : ∀ name table, before.table? name = some table → after.table? name = some table
  settings : ∀ table key value, before.setting? table key = some value →
    after.setting? table key = some value

namespace Extends

theorem refl (database : Database) : Extends database database :=
  ⟨fun _ _ h => h, fun _ _ _ h => h⟩

theorem trans {first second third : Database} (h : Extends first second)
    (h' : Extends second third) : Extends first third where
  tables := fun name table htable => h'.tables name table (h.tables name table htable)
  settings := fun table key value hvalue =>
    h'.settings table key value (h.settings table key value hvalue)

theorem of_additions {before after : Database} (h : Additions before after) :
    Extends before after where
  tables := fun name table htable => h.table?_eq htable
  settings := fun table key value hvalue => by rwa [h.setting?_eq]

end Extends

theorem checkSetting_extends {database after : Database} {table key value : String}
    (h : database.checkSetting table key value = .ok after) : Extends database after := by
  obtain ⟨htables, -, hkept⟩ := checkSetting_ok h
  exact ⟨fun name content htable => by rwa [table?, htables], hkept⟩

/-- Opening a table adds to a database, also when it fails. -/
theorem openTable_extends (options : StoreOptions) (database : Database) :
    Extends database (Handle.openTable options database).1 := by
  rw [Handle.openTable]
  split
  · exact .refl database
  · split
    · exact .refl database
    · next recorded hrecorded =>
      have hextends := checkSetting_extends hrecorded
      split
      · exact hextends
      · next noted hnoted =>
        have hextends' := hextends.trans (checkSetting_extends hnoted)
        have hmade := hextends'.trans
          (.of_additions (createTables_additions options.tableName options.dimensions noted))
        split
        · next heq =>
          rw [heq] at hmade
          exact hmade
        · next heq =>
          rw [heq] at hmade
          exact hmade

/-! ## What a handle says -/

/-- What a table is opened with is recorded under its name. -/
theorem settings_of_openTable {options : StoreOptions} {database after : Database}
    {handle : Handle} (h : Handle.openTable options database = (after, .ok handle)) :
    after.setting? options.tableName "dimensions" = some (Text.decimal options.dimensions) ∧
      after.setting? options.tableName "embed_text" = some options.embedText.name := by
  obtain ⟨-, -, recorded, noted, hrecorded, hnoted, htables⟩ := openTable_ok h
  obtain ⟨-, hdimensions, -⟩ := checkSetting_ok hrecorded
  obtain ⟨-, hembed, -⟩ := checkSetting_ok hnoted
  have hmade := Extends.of_additions
    (createTables_additions options.tableName options.dimensions noted)
  rw [htables] at hmade
  exact ⟨hmade.settings _ _ _ ((checkSetting_extends hnoted).settings _ _ _ hdimensions),
    hmade.settings _ _ _ hembed⟩

/-- The number of dimensions that a handle asks for is recorded under its name. -/
theorem setting?_of_openTable {options : StoreOptions} {database after : Database}
    {handle : Handle} (h : Handle.openTable options database = (after, .ok handle)) :
    after.setting? handle.tableName "dimensions" = some (Text.decimal handle.dimensions) := by
  obtain ⟨-, rfl, -⟩ := openTable_ok h
  exact (settings_of_openTable h).1

/-- A vector table cannot be opened as a chunk table. -/
theorem not_vectors_of_openTable {options : StoreOptions} {database after : Database}
    {handle : Handle} (h : Handle.openTable options database = (after, .ok handle))
    (content : VectorTable) : database.table? options.tableName ≠ some (.vectors content) := by
  intro hvectors
  obtain ⟨-, -, recorded, noted, hrecorded, hnoted, htables⟩ := openTable_ok h
  obtain ⟨withChunks, withIndexes, hmade, hindexes, -⟩ := createTables_ok htables
  -- The table is still there when its first index is made, and it has no columns for one.
  have hextends := ((checkSetting_extends hrecorded).trans (checkSetting_extends hnoted)).trans
    (.of_additions (createChunks_additions options.tableName noted))
  rw [hmade] at hextends
  have hkept := hextends.tables _ _ hvectors
  rw [chunkIndexes, List.map_cons, List.foldl_cons] at hindexes
  obtain ⟨withFirst, hfirst⟩ := Change.foldl_andThen_ok hindexes
  rw [Change.andThen, createIndex, hkept] at hfirst
  cases hfirst

end Database

namespace Handle

variable {handle : Handle} {name : String} {database after : Database} {chunks : ChunkTable}
  {vectors : VectorTable} {record : Record}

/-! ## Handles of one table -/

/-- A handle sees the chunk table of its name, however it is spelled. -/
theorem chunkTable_of_fold (hname : Database.fold handle.tableName = Database.fold name)
    (h : database.table? name = some (.chunks chunks)) : handle.chunkTable database = chunks := by
  rw [chunkTable, Database.chunks?, Database.table?_congr hname, h]
  rfl

theorem vectorTable_of_fold (hname : Database.fold handle.tableName = Database.fold name)
    (h : database.table? (Database.vectorName name) = some (.vectors vectors)) :
    handle.vectorTable database = .ok vectors := by
  have hvectors : Database.fold handle.vectorName = Database.fold (Database.vectorName name) :=
    Database.fold_vectorName_inj.mpr hname
  rw [vectorTable, Database.vectors?, Database.table?_congr hvectors, h]

theorem vectorTable_ok (h : handle.vectorTable database = .ok vectors) :
    database.table? handle.vectorName = some (.vectors vectors) := by
  rw [vectorTable, Database.vectors?] at h
  cases htable : database.table? handle.vectorName with
  | none =>
    rw [htable] at h
    cases h
  | some table =>
    rw [htable] at h
    cases table with
    | vectors content =>
      cases h
      rfl
    | chunks content => cases h
    | internal columns => cases h

/-! ## Storing -/

/-- All that storing a record needs, and what it does. -/
theorem insert_ok (h : handle.insert record database = .ok after) :
    ∃ vectors, handle.vectorTable database = .ok vectors ∧
      record.embedding.length = handle.dimensions ∧
      record.embedding.length = vectors.dimensions ∧
      after = (database.setTable handle.tableName
          (.chunks
            (storeIn handle.writePolicy record (handle.chunkTable database) vectors).1)).setTable
        handle.vectorName
          (.vectors
            (storeIn handle.writePolicy record (handle.chunkTable database) vectors).2) := by
  cases hvectors : handle.vectorTable database with
  | error error =>
    rw [insert, hvectors] at h
    split at h
    · cases h
    · cases hreadOnly : handle.isReadOnly <;> rw [hreadOnly] at h <;> cases h
  | ok vectors =>
    by_cases hlength :
        record.embedding.length ≠ handle.dimensions ∨ record.embedding.length ≠ vectors.dimensions
    · obtain ⟨error, herror⟩ := handle.insert_eq_error hvectors hlength
      rw [herror] at h
      cases h
    · rw [not_or, not_not, not_not] at hlength
      cases hreadOnly : handle.isReadOnly with
      | true =>
        rw [insert, if_neg (not_not.mpr hlength.1), hreadOnly] at h
        cases h
      | false =>
        rw [handle.insert_eq_ok hreadOnly hvectors hlength.1 hlength.2] at h
        cases h
        exact ⟨vectors, rfl, hlength.1, hlength.2, rfl⟩

/-- A record is stored, or it is refused and the database stays as it is. -/
theorem append_cases (handle : Handle) (record : Record) (database : Database) :
    (∃ error, handle.append record database = (.error error, database)) ∨
      ∃ after, handle.insert record database = .ok after ∧
        handle.append record database = (.ok (), after) := by
  cases h : handle.insert record database with
  | error error => exact Or.inl ⟨error, append_of_insert_eq_error h⟩
  | ok after => exact Or.inr ⟨after, rfl, append_of_insert_eq_ok h⟩

/-- Storing a record changes no setting. -/
theorem settings_append (handle : Handle) (record : Record) (database : Database) :
    (handle.append record database).2.settings = database.settings := by
  rcases append_cases handle record database with ⟨error, h⟩ | ⟨after, hinsert, h⟩
  · rw [h]
  · obtain ⟨vectors, -, -, -, rfl⟩ := insert_ok hinsert
    rw [h]
    rfl

/-- What a record that is taken does to the two tables, however their name is spelled. -/
theorem insert_own (hchunks : database.table? name = some (.chunks chunks))
    (hvectors : database.table? (Database.vectorName name) = some (.vectors vectors))
    (hname : Database.fold handle.tableName = Database.fold name)
    (h : handle.insert record database = .ok after) :
    record.embedding.length = handle.dimensions ∧
      record.embedding.length = vectors.dimensions ∧
      after.table? name = some (.chunks (storeIn handle.writePolicy record chunks vectors).1) ∧
      after.table? (Database.vectorName name) =
        some (.vectors (storeIn handle.writePolicy record chunks vectors).2) := by
  obtain ⟨own, hown, hlength, hfits, rfl⟩ := insert_ok h
  rw [vectorTable_of_fold hname hvectors] at hown
  cases hown
  have hvectorName : Database.fold handle.vectorName =
      Database.fold (Database.vectorName name) := Database.fold_vectorName_inj.mpr hname
  rw [chunkTable_of_fold hname hchunks, Database.setTable_congr hname,
    Database.setTable_congr hvectorName]
  exact ⟨hlength, hfits, Database.table?_setTables_chunks ⟨chunks, hchunks⟩ _ _,
    Database.table?_setTables_vectors ⟨vectors, hvectors⟩ _ _⟩

/-- Storing a record changes the chunks of one table only. -/
theorem insert_other (h : handle.insert record database = .ok after)
    (hname : Database.fold handle.tableName ≠ Database.fold name) :
    (after.chunks? name).getD {} = (database.chunks? name).getD {} := by
  obtain ⟨vectors, hvectors, -, -, rfl⟩ := insert_ok h
  have hthere : ∃ old, database.table? (Database.vectorName handle.tableName) =
      some (.vectors old) := ⟨vectors, vectorTable_ok hvectors⟩
  rw [Database.chunks?, Database.chunks?]
  by_cases hvectorName : Database.fold name = Database.fold (Database.vectorName handle.tableName)
  · -- There are no chunks in the vector table.
    obtain ⟨old, hold⟩ := hthere
    rw [Database.table?_congr hvectorName, Database.table?_congr hvectorName, hold, vectorName,
      Database.table?_setTables_vectors ⟨old, hold⟩]
  · rw [vectorName, Database.table?_setTable_of_ne hvectorName,
      Database.table?_setTable_of_ne hname.symm]

/-- Storing a record through the handle of another table leaves a chunk table and its vector table
alone. -/
theorem append_other (hchunks : database.table? name = some (.chunks chunks))
    (hvectors : database.table? (Database.vectorName name) = some (.vectors vectors))
    (hname : Database.fold handle.tableName ≠ Database.fold name)
    (hvectorName : Database.fold handle.tableName ≠ Database.fold (Database.vectorName name))
    (record : Record) :
    (handle.append record database).2.table? name = some (.chunks chunks) ∧
      (handle.append record database).2.table? (Database.vectorName name) =
        some (.vectors vectors) := by
  rcases append_cases handle record database with ⟨error, h⟩ | ⟨after, hinsert, h⟩
  · rw [h]
    exact ⟨hchunks, hvectors⟩
  · obtain ⟨other, hother, -, -, rfl⟩ := insert_ok hinsert
    rw [h]
    have hdistinct : Database.fold (Database.vectorName name) ≠
        Database.fold handle.vectorName := by
      intro heq
      exact hname (Database.fold_vectorName_inj.mp heq).symm
    -- The vector table of the handle is one, and so it is not the chunk table.
    have hkind : Database.fold name ≠ Database.fold handle.vectorName := by
      intro heq
      have htable := vectorTable_ok hother
      rw [← Database.table?_congr heq, hchunks] at htable
      cases htable
    constructor
    · rw [Database.table?_setTable_of_ne hkind, Database.table?_setTable_of_ne hname.symm]
      exact hchunks
    · rw [Database.table?_setTable_of_ne hdistinct,
        Database.table?_setTable_of_ne hvectorName.symm]
      exact hvectors

end Handle

end CodeSearch
