import CodeSearch.Proofs.Store.Opening
import CodeSearch.Proofs.Store.Queries
import CodeSearch.Proofs.Store.Tables
import CodeSearch.Store.ChunkStore

/-!
# What an opened table holds

An opened table holds a plain list of records, spread over its chunk table and its vector table.
Storing a record is `put` on that list, and every query is a function of it.

- `Database.Holds`: the table that was opened with some options holds a list of records.
- `Represents.records_eq`, `Represents.keyword_eq`, `Represents.statistics_eq`: what a handle reads
  from two tables that hold a list of records.
- `Holds.append_of_fits`, `Holds.append_of_not_fits`: a record that fits is stored, and one that
  does not leaves no trace.
- `Holds.records_eq`, `Holds.countId_eq`, `Holds.keyword_eq`, `Holds.statistics_eq`: the queries, on
  the list.
-/

namespace CodeSearch

/-- The handle that opening with the options gives, under a write policy of its own. -/
def StoreOptions.handle (options : StoreOptions) (policy : WritePolicy) : Handle :=
  { tableName := options.tableName, dimensions := options.dimensions, writePolicy := policy }

/-- The vector of the record can be stored. No vector can if a vector table cannot have as many
dimensions as the options ask for. -/
def StoreOptions.Fits (options : StoreOptions) (record : Record) : Prop :=
  record.embedding.length = options.dimensions ∧ options.dimensions ≤ VectorTable.maxDimensions

instance (options : StoreOptions) (record : Record) : Decidable (options.Fits record) :=
  inferInstanceAs (Decidable (_ ∧ _))

namespace Database

/-- The table that was opened with the options is ready and holds a list of records. -/
structure Holds (options : StoreOptions) (records : List Record) (database : Database) : Prop where
  ready : Ready options database
  tables : ∃ chunks vectors numbered,
    database.table? options.tableName = some (.chunks chunks) ∧
    database.table? (vectorName options.tableName) = some (.vectors vectors) ∧
    Represents chunks vectors numbered ∧ numbered.map Prod.snd = records ∧
    vectors.dimensions ≤ VectorTable.maxDimensions ∧
    (options.dimensions ≤ VectorTable.maxDimensions → vectors.dimensions = options.dimensions)

/-- A table that was just made holds nothing. -/
theorem holds_of_openTable {options : StoreOptions} {start after : Database} {handle : Handle}
    (hchunks : start.table? options.tableName = none)
    (hvectors : start.table? (vectorName options.tableName) = none)
    (h : Handle.openTable options start = (after, .ok handle)) :
    Holds options [] after ∧ handle = options.handle options.writePolicy := by
  obtain ⟨hready, hempty, understood, hvectorTable, hmax, heq⟩ :=
    ready_of_openTable hchunks hvectors h
  obtain ⟨-, hhandle, -⟩ := openTable_ok h
  refine ⟨⟨hready, ?_⟩, hhandle⟩
  exact ⟨{}, { dimensions := understood }, [], hempty, hvectorTable,
    Represents.empty understood, rfl, hmax, heq⟩

end Database

/-! ## What a handle sees -/

theorem StoreOptions.chunkTable_handle {options : StoreOptions} {database : Database}
    {chunks : ChunkTable} (h : database.table? options.tableName = some (.chunks chunks))
    (policy : WritePolicy) : (options.handle policy).chunkTable database = chunks := by
  rw [Handle.chunkTable, Database.chunks?, handle, h]
  rfl

theorem StoreOptions.vectorTable_handle {options : StoreOptions} {database : Database}
    {vectors : VectorTable}
    (h : database.table? (Database.vectorName options.tableName) = some (.vectors vectors))
    (policy : WritePolicy) : (options.handle policy).vectorTable database = .ok vectors := by
  rw [Handle.vectorTable, Database.vectors?, Handle.vectorName, handle, h]

namespace Handle

/-- All records of the table with their vectors, oldest first. -/
def records (handle : Handle) (database : Database) : Except StoreError (List Record) := do
  let vectors ← handle.vectorTable database
  return (handle.chunkTable database).rows.map (recordOf vectors)

/-- A record is stored if its vector has the right length for the handle and for the table. -/
theorem insert_eq_ok (handle : Handle) {record : Record} {database : Database}
    {vectors : VectorTable} (hwritable : handle.isReadOnly = false)
    (hvectors : handle.vectorTable database = .ok vectors)
    (hlength : record.embedding.length = handle.dimensions)
    (hdimensions : record.embedding.length = vectors.dimensions) :
    handle.insert record database =
      .ok ((database.setTable handle.tableName
          (.chunks
            (storeIn handle.writePolicy record (handle.chunkTable database) vectors).1)).setTable
        handle.vectorName
          (.vectors
            (storeIn handle.writePolicy record (handle.chunkTable database) vectors).2)) := by
  rw [insert, if_neg (not_not.mpr hlength), hwritable, hvectors]
  show (if record.embedding.length ≠ vectors.dimensions then _ else _) = _
  rw [if_neg (not_not.mpr hdimensions)]
  rfl

/-- A record is refused if its vector has another length. -/
theorem insert_eq_error (handle : Handle) {record : Record} {database : Database}
    {vectors : VectorTable} (hvectors : handle.vectorTable database = .ok vectors)
    (h : record.embedding.length ≠ handle.dimensions ∨
      record.embedding.length ≠ vectors.dimensions) :
    ∃ error, handle.insert record database = .error error := by
  rw [insert]
  by_cases hlength : record.embedding.length ≠ handle.dimensions
  · rw [if_pos hlength]
    exact ⟨_, rfl⟩
  · have hdimensions := h.resolve_left hlength
    rw [if_neg hlength, hvectors]
    -- Which of the two refusals comes first does not matter here.
    cases handle.isReadOnly with
    | true => exact ⟨_, rfl⟩
    | false =>
      show ∃ error, (if record.embedding.length ≠ vectors.dimensions then _ else _) = _
      rw [if_pos hdimensions]
      exact ⟨_, rfl⟩

@[simp] theorem dimensions_storeIn (policy : WritePolicy) (record : Record) (chunks : ChunkTable)
    (vectors : VectorTable) :
    (storeIn policy record chunks vectors).2.dimensions = vectors.dimensions := by
  cases policy <;> rfl

theorem map_takeLimit {α β : Type} (f : α → β) (limit : Nat) (items : List α) :
    (takeLimit limit items).map f = takeLimit limit (items.map f) := by
  rw [takeLimit, takeLimit]
  split
  · exact List.map_take
  · rfl

end Handle

/-! ## A handle and its two tables -/

namespace Represents

variable {handle : Handle} {database : Database} {chunks : ChunkTable} {vectors : VectorTable}
  {numbered : List Numbered}

/-- A handle of two tables that hold a list of records gives the list. -/
theorem records_eq (h : Represents chunks vectors numbered)
    (hchunks : handle.chunkTable database = chunks)
    (hvectors : handle.vectorTable database = .ok vectors) :
    handle.records database = .ok (numbered.map Prod.snd) := by
  -- The records are those of the rows that pass no test at all.
  have hall := h.map_recordOf_filter fun _ => true
  rw [List.filter_true, List.filter_true] at hall
  rw [Handle.records, hvectors, hchunks]
  exact congrArg Except.ok hall

/-- A handle of two tables that hold a list of records searches the list. -/
theorem keyword_eq (h : Represents chunks vectors numbered)
    (hchunks : handle.chunkTable database = chunks)
    (hvectors : handle.vectorTable database = .ok vectors) (keyword : String) (limit : Nat) :
    handle.keyword keyword limit database =
      searchRecords keyword limit (numbered.map Prod.snd) := by
  -- A pattern that is too long is only noticed when there is a row to compare with.
  have hempty : chunks.rows.isEmpty = (numbered.map Prod.snd).isEmpty := by
    rw [h.rows, List.isEmpty_map, List.isEmpty_map]
  unfold Handle.keyword searchRecords
  dsimp only
  rw [hchunks, hvectors, hempty]
  by_cases hlimit : limit = 0
  · rw [if_pos hlimit, if_pos hlimit]
    rfl
  · rw [if_neg hlimit, if_neg hlimit]
    by_cases hlong : (Pattern.isTooLong (Pattern.containing keyword.toList) &&
        !(numbered.map Prod.snd).isEmpty)
    · rw [if_pos hlong, if_pos hlong]
      rfl
    · rw [if_neg hlong, if_neg hlong, ← h.map_recordOf_filter, ← Handle.map_takeLimit]
      rfl

/-- A handle of two tables that hold a list of records counts over the list. -/
theorem statistics_eq (h : Represents chunks vectors numbered)
    (hchunks : handle.chunkTable database = chunks) :
    handle.statistics database = recordStatistics (numbered.map Prod.snd) := by
  have htally : ∀ column : Entry → String, chunks.tally column =
      tallyValues ((numbered.map Prod.snd).map fun record => column record.toEntry) := by
    intro column
    have hentries := congrArg (List.map column) h.map_entry
    rw [List.map_map, List.map_map] at hentries
    rw [ChunkTable.tally, tallyValues]
    rw [show (chunks.rows.map fun row => column row.entry) =
      (numbered.map Prod.snd).map fun record => column record.toEntry from hentries]
  rw [Handle.statistics, hchunks, recordStatistics, htally, htally, h.rows, List.length_map,
    List.length_map]

end Represents

/-! ## Storing and asking -/

namespace Database.Holds

variable {options : StoreOptions} {records : List Record} {database : Database}

/-- A record that fits is stored. -/
theorem append_of_fits (h : Holds options records database) (policy : WritePolicy)
    {record : Record} (hfits : options.Fits record) :
    ∃ after, (options.handle policy).append record database = (.ok (), after) ∧
      Holds options (policy.put record records) after := by
  obtain ⟨chunks, vectors, numbered, hchunks, hvectors, hrepresents, hrecords, hmax, heq⟩ :=
    h.tables
  obtain ⟨hlength, hsupported⟩ := hfits
  -- The vector has the length that the handle asks for, which is that of the table too.
  have hinsert := (options.handle policy).insert_eq_ok rfl
    (options.vectorTable_handle hvectors policy) hlength (hlength.trans (heq hsupported).symm)
  rw [options.chunkTable_handle hchunks] at hinsert
  obtain ⟨numbered', hrepresents', hput⟩ := hrepresents.storeIn policy record
  refine ⟨_, Handle.append_of_insert_eq_ok hinsert, h.ready.setTables _ _, ?_⟩
  refine ⟨_, _, numbered', table?_setTables_chunks h.ready.chunks _ _,
    table?_setTables_vectors h.ready.vectors _ _, hrepresents', hput.trans (by rw [hrecords]), ?_⟩
  rw [Handle.dimensions_storeIn]
  exact ⟨hmax, heq⟩

/-- A record that does not fit is refused and leaves no trace. -/
theorem append_of_not_fits (h : Holds options records database) (policy : WritePolicy)
    {record : Record} (hfits : ¬ options.Fits record) :
    ∃ error, (options.handle policy).append record database = (.error error, database) := by
  obtain ⟨chunks, vectors, numbered, hchunks, hvectors, hrepresents, hrecords, hmax, heq⟩ :=
    h.tables
  have hlength : record.embedding.length ≠ options.dimensions ∨
      record.embedding.length ≠ vectors.dimensions := by
    by_cases hlength : record.embedding.length = options.dimensions
    · -- The handle lets the record through, but the table cannot have so many dimensions.
      right
      intro hdimensions
      exact hfits ⟨hlength, by omega⟩
    · exact Or.inl hlength
  obtain ⟨error, hinsert⟩ := (options.handle policy).insert_eq_error
    (options.vectorTable_handle hvectors policy) hlength
  exact ⟨error, Handle.append_of_insert_eq_error hinsert⟩

theorem records_eq (h : Holds options records database) (policy : WritePolicy) :
    (options.handle policy).records database = .ok records := by
  obtain ⟨chunks, vectors, numbered, hchunks, hvectors, hrepresents, hrecords, -⟩ := h.tables
  rw [← hrecords]
  exact hrepresents.records_eq (options.chunkTable_handle hchunks policy)
    (options.vectorTable_handle hvectors policy)

theorem countId_eq (h : Holds options records database) (policy : WritePolicy) (id : String) :
    (options.handle policy).countId id database =
      records.countP fun record => record.id == id := by
  obtain ⟨chunks, vectors, numbered, hchunks, -, hrepresents, hrecords, -⟩ := h.tables
  rw [Handle.countId, options.chunkTable_handle hchunks,
    ChunkTable.rowsOf, ← List.countP_eq_length_filter, hrepresents.rows, ← hrecords,
    List.countP_map, List.countP_map]
  rfl

theorem keyword_eq (h : Holds options records database) (policy : WritePolicy) (keyword : String)
    (limit : Nat) :
    (options.handle policy).keyword keyword limit database =
      searchRecords keyword limit records := by
  obtain ⟨chunks, vectors, numbered, hchunks, hvectors, hrepresents, hrecords, -⟩ := h.tables
  rw [← hrecords]
  exact hrepresents.keyword_eq (options.chunkTable_handle hchunks policy)
    (options.vectorTable_handle hvectors policy) keyword limit

theorem statistics_eq (h : Holds options records database) (policy : WritePolicy) :
    (options.handle policy).statistics database = recordStatistics records := by
  obtain ⟨chunks, vectors, numbered, hchunks, -, hrepresents, hrecords, -⟩ := h.tables
  rw [← hrecords]
  exact hrepresents.statistics_eq (options.chunkTable_handle hchunks policy)

end Database.Holds

end CodeSearch
