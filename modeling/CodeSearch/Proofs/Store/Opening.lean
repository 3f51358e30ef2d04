import CodeSearch.Store.Handle

/-!
# Opening a table

Opening makes what is missing and leaves the rest alone, so a table that was opened once can be
opened again, with any write policy, and nothing changes.

- `table?_setTable_self`, `table?_setTable_of_ne`, `table?_addTable`: what a change of one table
  does to the others.
- `Database.Ready`: the settings, tables and indexes that opening a table makes.
- `Ready.openTable_eq`: opening again changes nothing.
- `ready_of_openTable`: the first opening makes all of it, with empty tables.
-/

namespace CodeSearch

namespace Database

/-! ## Names -/

theorem length_toList_fold (name : String) : (fold name).toList.length = name.toList.length := by
  rw [fold, String.toList_ofList, List.length_map]

/-- A vector table does not have the name of its chunk table. -/
theorem fold_vectorName_ne (name : String) : fold (vectorName name) ≠ fold name := by
  intro h
  have hlength := congrArg (fun folded => folded.toList.length) h
  simp only [length_toList_fold, vectorName, String.toList_append, List.length_append] at hlength
  have : "vec_".toList.length = 4 := by decide
  omega

/-- No name of a vector table is one of an index. -/
theorem fold_index_ne (index name : String) :
    fold ("idx_" ++ index) ≠ fold (vectorName name) := by
  intro h
  have hhead := congrArg (fun folded => folded.toList.head?) h
  simp [fold, vectorName] at hhead

/-! ## Looking up tables -/

theorem fold_ne_settingsName {database : Database} {name : String} {table : Table}
    (h : database.table? name = some table) (hinternal : ∀ columns, table ≠ .internal columns) :
    fold name ≠ settingsName := by
  intro hname
  rw [table?, if_pos hname] at h
  exact hinternal _ (Option.some.inj h).symm

theorem lookup_cons_eq_ite (name other : String) (table : Table)
    (tables : List (String × Table)) :
    ((name, table) :: tables).lookup other =
      if other = name then some table else tables.lookup other := by
  rw [List.lookup_cons]
  by_cases h : other = name
  · rw [if_pos h, beq_iff_eq.mpr h]
  · rw [if_neg h, beq_eq_false_iff_ne.mpr h]

theorem lookup_map_replace (tables : List (String × Table)) (key other : String) (table : Table) :
    (tables.map fun entry => if entry.1 = key then (entry.1, table) else entry).lookup other =
      if other = key then (tables.lookup other).map fun _ => table else tables.lookup other := by
  induction tables with
  | nil => simp
  | cons entry tables ih =>
    obtain ⟨name, content⟩ := entry
    have hentry : (if name = key then (name, table) else (name, content)) =
        (name, if name = key then table else content) := by
      split <;> rfl
    rw [List.map_cons, hentry, lookup_cons_eq_ite, lookup_cons_eq_ite, ih]
    by_cases hother : other = name
    · subst hother
      by_cases hkey : other = key
      · simp [hkey]
      · simp [hkey]
    · simp [hother]

/-- Replacing a table does not change the others. -/
theorem table?_setTable_of_ne {name other : String} (h : fold other ≠ fold name)
    (database : Database) (table : Table) :
    (database.setTable name table).table? other = database.table? other := by
  rw [table?, table?, setTable, lookup_map_replace, if_neg h]

/-- A table that was there has its new content. -/
theorem table?_setTable_self {database : Database} {name : String} {old : Table}
    (h : database.table? name = some old) (hinternal : ∀ columns, old ≠ .internal columns)
    (table : Table) : (database.setTable name table).table? name = some table := by
  have hname := fold_ne_settingsName h hinternal
  rw [table?, if_neg hname] at h
  rw [table?, if_neg hname, setTable, lookup_map_replace, if_pos rfl, h]
  rfl

/-- A chunk table keeps its content when the vector table that goes with it is replaced. -/
theorem table?_setTables_chunks {database : Database} {name : String}
    (h : ∃ old, database.table? name = some (.chunks old)) (chunks : ChunkTable)
    (vectors : VectorTable) :
    ((database.setTable name (.chunks chunks)).setTable (vectorName name)
      (.vectors vectors)).table? name = some (.chunks chunks) := by
  obtain ⟨old, hold⟩ := h
  rw [table?_setTable_of_ne (fold_vectorName_ne name).symm]
  exact table?_setTable_self hold (fun _ => Table.noConfusion) _

theorem table?_setTables_vectors {database : Database} {name : String}
    (h : ∃ old, database.table? (vectorName name) = some (.vectors old)) (chunks : ChunkTable)
    (vectors : VectorTable) :
    ((database.setTable name (.chunks chunks)).setTable (vectorName name)
      (.vectors vectors)).table? (vectorName name) = some (.vectors vectors) := by
  obtain ⟨old, hold⟩ := h
  rw [← table?_setTable_of_ne (fold_vectorName_ne name) database (.chunks chunks)] at hold
  exact table?_setTable_self hold (fun _ => Table.noConfusion) _

/-- Replacing a table does not make one. -/
theorem table?_setTable_eq_none {database : Database} {other : String}
    (h : database.table? other = none) (name : String) (table : Table) :
    (database.setTable name table).table? other = none := by
  rw [table?] at h ⊢
  split at h
  · cases h
  · next hname =>
    rw [if_neg hname, setTable, lookup_map_replace, h]
    exact ite_self none

/-- An added table is seen under its name, unless another one is. -/
theorem table?_addTable (database : Database) (name other : String) (table : Table) :
    (database.addTable name table).table? other =
      (database.table? other).or (if fold other = fold name then some table else none) := by
  rw [table?, table?, addTable]
  split
  · rfl
  · rw [List.lookup_append]
    refine congrArg _ ?_
    exact lookup_cons_eq_ite (fold name) (fold other) table []

theorem table?_addTable_of_ne {name other : String} (h : fold other ≠ fold name)
    (database : Database) (table : Table) :
    (database.addTable name table).table? other = database.table? other := by
  rw [table?_addTable, if_neg h, Option.or_none]

theorem table?_addTable_of_some {database : Database} {other : String} {old : Table}
    (h : database.table? other = some old) (name : String) (table : Table) :
    (database.addTable name table).table? other = some old := by
  rw [table?_addTable, h]
  rfl

/-! ## What the steps of opening do -/

/-- A checked setting is recorded, and the settings recorded before stay. -/
theorem checkSetting_ok {database after : Database} {table key value : String}
    (h : database.checkSetting table key value = .ok after) :
    after.tables = database.tables ∧ after.setting? table key = some value ∧
      ∀ name other stored, database.setting? name other = some stored →
        after.setting? name other = some stored := by
  rw [checkSetting] at h
  cases hstored : database.setting? table key with
  | some stored =>
    rw [hstored] at h
    dsimp only at h
    split at h
    · next heq =>
      cases h
      exact ⟨rfl, heq ▸ hstored, fun _ _ _ h => h⟩
    · cases h
  | none =>
    rw [hstored] at h
    cases h
    rw [setting?, Option.map_eq_none_iff] at hstored
    -- Nothing was recorded under this key, so the new setting is found behind the others.
    refine ⟨rfl, ?_, fun name other stored hbefore => ?_⟩
    · rw [setting?, List.find?_append, hstored]
      simp
    · rw [setting?, Option.map_eq_some_iff] at hbefore
      obtain ⟨setting, hfind, hvalue⟩ := hbefore
      rw [setting?, List.find?_append, hfind, Option.some_or, Option.map_some, hvalue]

theorem checkSetting_of_stored {database : Database} {table key value : String}
    (h : database.setting? table key = some value) :
    database.checkSetting table key value = .ok database := by
  rw [checkSetting, h]
  exact if_pos rfl

theorem createChunks_ok {name : String} {database after : Database}
    (habsent : database.table? name = none) (h : createChunks name database = (after, none)) :
    isReserved name = false ∧ after = database.addTable name (.chunks {}) := by
  rw [createChunks, habsent] at h
  split at h
  · cases h
  · next hreserved =>
    rw [if_neg (by simp)] at h
    split at h
    · cases h
    · cases h
      exact ⟨by simpa using hreserved, rfl⟩

/-- An index that was made is there, and no table has its name. -/
theorem createIndex_ok {name index column : String} {database after : Database}
    (h : createIndex name index column database = (after, none)) :
    database.table? index = none ∧ after.settings = database.settings ∧
      after.tables = database.tables ∧ after.hasIndex index = true ∧
      ∀ other, database.hasIndex other = true → after.hasIndex other = true := by
  rw [createIndex] at h
  split at h
  · cases h
  · split at h
    · cases h
    · next hfree =>
      have hnone : database.table? index = none := by simpa using hfree
      split at h
      · next hindex =>
        cases h
        exact ⟨hnone, rfl, rfl, hindex, fun _ h => h⟩
      · split at h
        · cases h
        · cases h
          refine ⟨hnone, rfl, rfl, ?_, fun other hother => ?_⟩
          · simp [hasIndex]
          · rw [hasIndex, List.contains_iff_mem] at hother ⊢
            exact List.mem_append_left _ hother

/-- Adding tables keeps those that are there, and names that none of them has stay free. -/
theorem foldl_addTable (inner : List (String × List String)) (database : Database) :
    (inner.foldl (fun database table => database.addTable table.1 (.internal table.2))
        database).settings = database.settings ∧
      (inner.foldl (fun database table => database.addTable table.1 (.internal table.2))
        database).indexes = database.indexes ∧
      (∀ other table, database.table? other = some table →
        (inner.foldl (fun database table => database.addTable table.1 (.internal table.2))
          database).table? other = some table) ∧
      ∀ other, (∀ table ∈ inner, fold other ≠ fold table.1) → database.table? other = none →
        (inner.foldl (fun database table => database.addTable table.1 (.internal table.2))
          database).table? other = none := by
  induction inner generalizing database with
  | nil => exact ⟨rfl, rfl, fun _ _ h => h, fun _ _ h => h⟩
  | cons first inner ih =>
    obtain ⟨hsettings, hindexes, hsome, hnone⟩ := ih (database.addTable first.1 (.internal first.2))
    refine ⟨hsettings, hindexes, fun other table h => ?_, fun other hne h => ?_⟩
    · exact hsome other table (table?_addTable_of_some h _ _)
    · refine hnone other (fun table htable => hne table (List.mem_cons_of_mem _ htable)) ?_
      rw [table?_addTable_of_ne (hne first List.mem_cons_self)]
      exact h

/-- The number of dimensions is understood as it is, if it is not too large. -/
theorem understoodDimensions_of_le {dimensions : Nat}
    (h : dimensions ≤ VectorTable.maxDimensions) :
    understoodDimensions dimensions = dimensions := by
  have hmax : VectorTable.maxDimensions = 8192 := rfl
  have hmin : min dimensions 0x7FFFFFFFFFFFFFFF = dimensions := by omega
  rw [understoodDimensions, hmin, Int32.toInt_ofInt_of_le]
  · omega
  · omega

/-- A vector table that was made is empty, and the tables of before are still there. -/
theorem createVectors_ok {base : String} {dimensions : Nat} {database after : Database}
    (habsent : database.table? (vectorName base) = none)
    (h : createVectors (vectorName base) dimensions database = (after, none)) :
    after.settings = database.settings ∧ after.indexes = database.indexes ∧
      (∃ understood, after.table? (vectorName base) = some (.vectors { dimensions := understood }) ∧
        understood ≤ VectorTable.maxDimensions ∧
        (dimensions ≤ VectorTable.maxDimensions → understood = dimensions)) ∧
      (∀ other table, database.table? other = some table → after.table? other = some table) ∧
      ∀ index, database.table? ("idx_" ++ index) = none →
        after.table? ("idx_" ++ index) = none := by
  rw [createVectors, habsent, if_neg (by simp)] at h
  split at h
  · cases h
  · dsimp only at h
    split at h
    · cases h
    · next hrange =>
      split at h
      · cases h
      · rw [Prod.mk.injEq] at h
        obtain ⟨hafter, -⟩ := h
        obtain ⟨hsettings, hindexes, hsome, hnone⟩ := foldl_addTable
          (internalTables (vectorName base)) (database.addTable (vectorName base)
            (.vectors { dimensions := (understoodDimensions dimensions).toNat }))
        rw [hafter] at hsettings hindexes hsome hnone
        refine ⟨hsettings, hindexes,
          ⟨(understoodDimensions dimensions).toNat, ?_, ?_, fun hle => ?_⟩,
          fun other table h => ?_, fun index h => ?_⟩
        · refine hsome _ _ ?_
          rw [table?_addTable, habsent, if_pos rfl]
          rfl
        · -- Larger counts were refused.
          simp only [Bool.or_eq_true, decide_eq_true_eq, not_or] at hrange
          omega
        · -- A count that a vector table can have is not changed on the way.
          rw [understoodDimensions_of_le hle]
          rfl
        · exact hsome other table (table?_addTable_of_some h _ _)
        · refine hnone _ (fun table htable => ?_) ?_
          · -- Inner tables are named after the vector table, so none takes the name of an index.
            have hname : ∃ suffix, table.1 = vectorName (base ++ suffix) := by
              simp only [internalTables, List.mem_cons, List.not_mem_nil, or_false] at htable
              rcases htable with rfl | rfl | rfl | rfl <;>
                exact ⟨_, String.append_assoc⟩
            obtain ⟨suffix, hsuffix⟩ := hname
            rw [hsuffix]
            exact fold_index_ne _ _
          · rw [table?_addTable_of_ne (fold_index_ne _ _)]
            exact h

/-! ## Opening -/

theorem Change.andThen_ok {change : Change} {next : Database → Change} {after : Database}
    (h : Change.andThen change next = (after, none)) :
    ∃ database, change = (database, none) ∧ next database = (after, none) := by
  obtain ⟨database, fault⟩ := change
  cases fault with
  | none => exact ⟨database, rfl, h⟩
  | some fault => cases h

/-- A row of changes is made only if the first of them is. -/
theorem Change.foldl_andThen_ok {α : Type} {next : α → Database → Change} {items : List α}
    {change : Change} {after : Database}
    (h : items.foldl (fun change item => Change.andThen change (next item)) change =
      (after, none)) : ∃ database, change = (database, none) := by
  induction items generalizing change with
  | nil => exact ⟨after, h⟩
  | cons item items ih =>
    obtain ⟨database, hfirst⟩ := ih h
    obtain ⟨before, hbefore, -⟩ := Change.andThen_ok hfirst
    exact ⟨before, hbefore⟩

/-- Nothing is made if everything is there. -/
theorem createTables_eq_self {name : String} {database : Database}
    (hallowed : isReserved name = false)
    (hchunks : ∃ content, database.table? name = some (.chunks content))
    (hindexes : ∀ index ∈ chunkIndexes name,
      database.table? index.1 = none ∧ database.hasIndex index.1 = true)
    (hvectors : (database.table? (vectorName name)).isSome = true) (dimensions : Nat) :
    createTables name dimensions database = (database, none) := by
  obtain ⟨content, hchunks⟩ := hchunks
  have hfirst : createChunks name database = (database, none) := by
    rw [createChunks, hallowed, hchunks]
    rfl
  have hmade : (chunkIndexes name).foldl
      (fun change index => Change.andThen change (createIndex name index.1 index.2))
      (database, none) = (database, none) := by
    -- Along the row of changes the database stays as it is, and there is no fault.
    refine List.foldlRecOn (motive := fun change => change = (database, none)) _ _ rfl ?_
    intro change hchange index hindex
    obtain ⟨hfree, hindexed⟩ := hindexes index hindex
    rw [hchange, Change.andThen, createIndex, hchunks, hfree, hindexed]
    rfl
  rw [createTables, hfirst, hmade, Change.andThen, createVectors, if_pos hvectors]

/-- What opening a table makes: its settings, the chunk table with its indexes, and the vector
table. -/
structure Ready (options : StoreOptions) (database : Database) : Prop where
  isName : Handle.isTableName options.tableName = true
  isAllowed : isReserved options.tableName = false
  dimensions : database.setting? options.tableName "dimensions" =
    some (Text.decimal options.dimensions)
  embedText : database.setting? options.tableName "embed_text" = some options.embedText.name
  chunks : ∃ content, database.table? options.tableName = some (.chunks content)
  indexes : ∀ index ∈ chunkIndexes options.tableName,
    database.table? index.1 = none ∧ database.hasIndex index.1 = true
  vectors : ∃ content, database.table? (vectorName options.tableName) = some (.vectors content)

namespace Ready

variable {options : StoreOptions} {database : Database}

theorem createTables_eq (h : Ready options database) :
    createTables options.tableName options.dimensions database = (database, none) := by
  obtain ⟨content, hvectors⟩ := h.vectors
  exact createTables_eq_self h.isAllowed h.chunks h.indexes (by rw [hvectors]; rfl) _

/-- Opening again changes nothing, whatever the write policy. -/
theorem openTable_eq (h : Ready options database) (policy : WritePolicy) :
    Handle.openTable { options with writePolicy := policy } database =
      (database, .ok
        { tableName := options.tableName
          dimensions := options.dimensions
          writePolicy := policy }) := by
  rw [Handle.openTable]
  dsimp only
  rw [h.isName, checkSetting_of_stored h.dimensions]
  dsimp only
  rw [checkSetting_of_stored h.embedText]
  dsimp only
  rw [h.createTables_eq]
  rfl

/-- Replacing the contents of the two tables leaves the table ready. -/
theorem setTables (h : Ready options database) (chunks : ChunkTable) (vectors : VectorTable) :
    Ready options ((database.setTable options.tableName (.chunks chunks)).setTable
      (vectorName options.tableName) (.vectors vectors)) where
  isName := h.isName
  isAllowed := h.isAllowed
  dimensions := h.dimensions
  embedText := h.embedText
  chunks := ⟨chunks, table?_setTables_chunks h.chunks chunks vectors⟩
  indexes := fun index hindex =>
    ⟨table?_setTable_eq_none (table?_setTable_eq_none (h.indexes index hindex).1 _ _) _ _,
      (h.indexes index hindex).2⟩
  vectors := ⟨vectors, table?_setTables_vectors h.vectors chunks vectors⟩

end Ready

/-! ## The first opening -/

theorem openTable_ok {options : StoreOptions} {start after : Database} {handle : Handle}
    (h : Handle.openTable options start = (after, .ok handle)) :
    Handle.isTableName options.tableName = true ∧
      handle = { tableName := options.tableName, dimensions := options.dimensions,
                 writePolicy := options.writePolicy } ∧
      ∃ recorded noted,
        start.checkSetting options.tableName "dimensions" (Text.decimal options.dimensions) =
          .ok recorded ∧
        recorded.checkSetting options.tableName "embed_text" options.embedText.name = .ok noted ∧
        createTables options.tableName options.dimensions noted = (after, none) := by
  rw [Handle.openTable] at h
  split at h
  · cases h
  · next hname =>
    split at h
    · cases h
    · next recorded hrecorded =>
      split at h
      · cases h
      · next noted hnoted =>
        split at h
        · cases h
        · next made htables =>
          cases h
          exact ⟨by simpa using hname, rfl, recorded, noted, hrecorded, hnoted, htables⟩

theorem createTables_ok {name : String} {dimensions : Nat} {database after : Database}
    (h : createTables name dimensions database = (after, none)) :
    ∃ withChunks withIndexes, createChunks name database = (withChunks, none) ∧
      (chunkIndexes name).foldl
        (fun change index => Change.andThen change (createIndex name index.1 index.2))
        (withChunks, none) = (withIndexes, none) ∧
      createVectors (vectorName name) dimensions withIndexes = (after, none) := by
  obtain ⟨withIndexes, hindexes, hvectors⟩ := Change.andThen_ok h
  obtain ⟨withChunks, hchunks⟩ := Change.foldl_andThen_ok hindexes
  rw [hchunks] at hindexes
  exact ⟨withChunks, withIndexes, hchunks, hindexes, hvectors⟩

theorem createIndexes_ok {name : String} {indexes : List (String × String)}
    {database after : Database}
    (h : indexes.foldl
      (fun change index => Change.andThen change (createIndex name index.1 index.2))
      (database, none) = (after, none)) :
    after.settings = database.settings ∧ after.tables = database.tables ∧
      (∀ other, database.hasIndex other = true → after.hasIndex other = true) ∧
      ∀ index ∈ indexes, after.table? index.1 = none ∧ after.hasIndex index.1 = true := by
  induction indexes generalizing database with
  | nil =>
    cases h
    exact ⟨rfl, rfl, fun _ h => h, fun _ h => absurd h List.not_mem_nil⟩
  | cons first indexes ih =>
    rw [List.foldl_cons] at h
    obtain ⟨made, hmade⟩ := Change.foldl_andThen_ok h
    rw [hmade] at h
    -- Making the other indexes keeps the first one, and adds no table that takes its name.
    obtain ⟨hsettings, htables, hkept, hindexes⟩ := ih h
    obtain ⟨hfree, hsettings', htables', hindex, hkept'⟩ := createIndex_ok hmade
    refine ⟨hsettings.trans hsettings', htables.trans htables', fun other hother => ?_, ?_⟩
    · exact hkept other (hkept' other hother)
    · intro index hindex'
      rcases List.mem_cons.mp hindex' with rfl | hindex'
      · refine ⟨?_, hkept _ hindex⟩
        rw [table?, htables.trans htables']
        exact hfree
      · exact hindexes index hindex'

/-- The first opening makes a table ready. Both tables are empty, and vectors have as many
dimensions as asked for, unless these are too many. -/
theorem ready_of_openTable {options : StoreOptions} {start after : Database} {handle : Handle}
    (hchunks : start.table? options.tableName = none)
    (hvectors : start.table? (vectorName options.tableName) = none)
    (h : Handle.openTable options start = (after, .ok handle)) :
    Ready options after ∧ after.table? options.tableName = some (.chunks {}) ∧
      ∃ understood,
        after.table? (vectorName options.tableName) = some (.vectors { dimensions := understood }) ∧
        understood ≤ VectorTable.maxDimensions ∧
        (options.dimensions ≤ VectorTable.maxDimensions → understood = options.dimensions) := by
  obtain ⟨hname, -, recorded, noted, hrecorded, hnoted, htables⟩ := openTable_ok h
  obtain ⟨htables₁, hdimensions, -⟩ := checkSetting_ok hrecorded
  obtain ⟨htables₂, hembed, hkept⟩ := checkSetting_ok hnoted
  -- Recording the settings leaves the tables alone.
  have hstart : ∀ other, noted.table? other = start.table? other := by
    intro other
    rw [table?, table?, htables₂, htables₁]
  obtain ⟨withChunks, withIndexes, hmade, hindexes, hmadeVectors⟩ := createTables_ok htables
  obtain ⟨hallowed, hadded⟩ := createChunks_ok ((hstart _).trans hchunks) hmade
  obtain ⟨hsettings₁, htables₃, -, hindexed⟩ := createIndexes_ok hindexes
  -- So does making the indexes.
  have hsame : ∀ other, withIndexes.table? other = withChunks.table? other := by
    intro other
    rw [table?, table?, htables₃]
  have hfreeVectors : withIndexes.table? (vectorName options.tableName) = none := by
    rw [hsame, hadded, table?_addTable_of_ne (fold_vectorName_ne _), hstart]
    exact hvectors
  have hempty : withIndexes.table? options.tableName = some (.chunks {}) := by
    rw [hsame, hadded, table?_addTable, hstart, hchunks, if_pos rfl]
    rfl
  -- With the name of the vector table still free, it is made now, and what is there stays.
  obtain ⟨hsettings₂, hindexes', ⟨understood, hvectorTable, hmax, heq⟩, hsome, hnone⟩ :=
    createVectors_ok hfreeVectors hmadeVectors
  have hsettings : ∀ key, after.setting? options.tableName key =
      noted.setting? options.tableName key := by
    intro key
    rw [setting?, setting?, hsettings₂, hsettings₁, hadded]
    rfl
  refine ⟨?_, hsome _ _ hempty, understood, hvectorTable, hmax, heq⟩
  exact
    { isName := hname
      isAllowed := hallowed
      dimensions := (hsettings _).trans (hkept _ _ _ hdimensions)
      embedText := (hsettings _).trans hembed
      chunks := ⟨{}, hsome _ _ hempty⟩
      indexes := by
        intro index hindex
        obtain ⟨hfree, hhas⟩ := hindexed index hindex
        rw [chunkIndexes, List.mem_map] at hindex
        obtain ⟨column, -, rfl⟩ := hindex
        constructor
        · -- The name of an index starts as that of no inner table does.
          dsimp only at hfree ⊢
          rw [String.append_assoc, String.append_assoc] at hfree ⊢
          exact hnone _ hfree
        · rw [hasIndex, hindexes']
          exact hhas
      vectors := ⟨_, hvectorTable⟩ }

end Database

end CodeSearch
