import CodeSearch.Proofs.Store.Extension

/-!
# Sound databases

What is in a database was put there by opening tables and storing records, and so some things are
never found in it: a table with the name of an index, an index of a column that its table does not
have, a vector table without its chunk table. Whether a database is sound does not depend on what
its tables hold.

- `Database.shape?`: the table with the given name, without what it holds.
- `Database.Sound`: what is found in no database; `Sound.additions`, `Sound.sameShape`.
- `Database.Precedes`: everything is still there, whatever the tables hold now.
- `Handle.append_sameShape`: storing a record changes no shape.
-/

namespace CodeSearch

theorem Table.indexColumns?_emptied (table : Table) :
    table.emptied.indexColumns? = table.indexColumns? := by
  cases table <;> rfl

namespace Database

/-! ## Shapes -/

/-- The table with the given name, without what it holds. -/
def shape? (database : Database) (name : String) : Option Table :=
  (database.table? name).map Table.emptied

section

variable {database : Database} {name other : String} {table : Table}

theorem shape?_congr (h : fold name = fold other) (database : Database) :
    database.shape? name = database.shape? other := by
  rw [shape?, shape?, table?_congr h]

theorem isSome_shape? (database : Database) (name : String) :
    (database.shape? name).isSome = (database.table? name).isSome := Option.isSome_map

theorem shape?_eq_none : database.shape? name = none ↔ database.table? name = none :=
  Option.map_eq_none_iff

theorem bind_indexColumns? (database : Database) (name : String) :
    (database.shape? name).bind Table.indexColumns? =
      (database.table? name).bind Table.indexColumns? := by
  rw [shape?, Option.bind_map]
  exact congrArg _ (funext Table.indexColumns?_emptied)

theorem shape?_eq_chunks : database.shape? name = some (.chunks {}) ↔
    ∃ content, database.table? name = some (.chunks content) := by
  constructor
  · intro h
    obtain ⟨table, htable, hempty⟩ := Option.map_eq_some_iff.mp h
    cases table with
    | chunks content => exact ⟨content, htable⟩
    | vectors content => cases hempty
    | internal columns => cases hempty
  · rintro ⟨content, h⟩
    rw [shape?, h]
    rfl

theorem exists_vectors_of_shape? {content : VectorTable}
    (h : database.shape? name = some (.vectors content)) :
    ∃ content, database.table? name = some (.vectors content) := by
  obtain ⟨table, htable, hempty⟩ := Option.map_eq_some_iff.mp h
  cases table with
  | vectors content => exact ⟨content, htable⟩
  | chunks content => cases hempty
  | internal columns => cases hempty

theorem shape?_addTable (database : Database) (name other : String) (table : Table) :
    (database.addTable name table).shape? other =
      (database.shape? other).or
        (if fold other = fold name then some table.emptied else none) := by
  rw [shape?, shape?, table?_addTable, Option.map_or]
  by_cases h : fold other = fold name
  · rw [if_pos h, if_pos h]
    rfl
  · rw [if_neg h, if_neg h]
    rfl

/-- A table may get other contents, and its shape is the same. -/
theorem shape?_setTable (h : database.shape? name = some table.emptied) (other : String) :
    (database.setTable name table).shape? other = database.shape? other := by
  by_cases hother : fold other = fold name
  · rw [shape?_congr hother, shape?_congr hother, h]
    rw [shape?, table?] at h ⊢
    split at h
    · next hsettings =>
      rw [if_pos hsettings]
      exact h
    · next hsettings =>
      obtain ⟨old, hold, -⟩ := Option.map_eq_some_iff.mp h
      rw [if_neg hsettings, setTable, lookup_map_replace, if_pos rfl, hold]
      rfl
  · rw [shape?, shape?, table?_setTable_of_ne hother]

end

/-- Both databases have the same tables and indexes, whatever the tables hold. -/
structure SameShape (before after : Database) : Prop where
  tables : ∀ name, after.shape? name = before.shape? name
  indexes : after.indexes = before.indexes

theorem SameShape.hasIndex {before after : Database} (h : SameShape before after)
    (name : String) : after.hasIndex name = before.hasIndex name := by
  rw [Database.hasIndex, Database.hasIndex, h.indexes]

/-- Everything that was there is still there, whatever the tables hold now. -/
structure Precedes (before after : Database) : Prop where
  tables : ∀ name table, before.shape? name = some table → after.shape? name = some table
  indexes : ∀ name, before.hasIndex name = true → after.hasIndex name = true

namespace Precedes

variable {before after : Database}

theorem refl (database : Database) : Precedes database database :=
  ⟨fun _ _ h => h, fun _ h => h⟩

theorem trans {first second third : Database} (h : Precedes first second)
    (h' : Precedes second third) : Precedes first third where
  tables := fun name table htable => h'.tables name table (h.tables name table htable)
  indexes := fun name hname => h'.indexes name (h.indexes name hname)

theorem of_sameShape (h : SameShape before after) : Precedes before after where
  tables := fun name _ htable => (h.tables name).trans htable
  indexes := fun name hname => (h.hasIndex name).trans hname

theorem of_additions (h : Additions before after) : Precedes before after where
  tables := by
    intro name table htable
    obtain ⟨content, hcontent, rfl⟩ := Option.map_eq_some_iff.mp htable
    rw [shape?, h.table?_eq hcontent]
    rfl
  indexes := fun _ hname => h.hasIndex hname

theorem isSome_table? (h : Precedes before after) {name : String}
    (hname : (before.table? name).isSome = true) : (after.table? name).isSome = true := by
  rw [← isSome_shape?] at hname ⊢
  obtain ⟨table, htable⟩ := Option.isSome_iff_exists.mp hname
  rw [h.tables name table htable]
  rfl

/-- A table has the columns that it had. -/
theorem bind_indexColumns? (h : Precedes before after) {name : String}
    (hname : (before.table? name).isSome = true) :
    (after.table? name).bind Table.indexColumns? =
      (before.table? name).bind Table.indexColumns? := by
  rw [← isSome_shape?] at hname
  obtain ⟨table, htable⟩ := Option.isSome_iff_exists.mp hname
  rw [← Database.bind_indexColumns?, ← Database.bind_indexColumns?, htable,
    h.tables name table htable]

end Precedes

/-! ## Names of indexes -/

theorem getLast?_fold_append (before : String) {last : String} (h : last.toList ≠ []) :
    (fold (before ++ last)).toList.getLast? = last.toList.getLast?.map Char.toLower := by
  rw [fold, String.toList_ofList, String.toList_append, List.map_append,
    List.getLast?_append_of_ne_nil _ (by simpa using h), List.getLast?_map]

/-- An index tells the table that it is named after, and the column. -/
theorem fold_index_inj {name other : String} {index index' : String × String}
    (hindex : index ∈ chunkIndexes name) (hindex' : index' ∈ chunkIndexes other)
    (h : fold index.1 = fold index'.1) : fold name = fold other ∧ index.2 = index'.2 := by
  obtain ⟨column, hcolumn, rfl⟩ := List.mem_map.mp hindex
  obtain ⟨column', hcolumn', rfl⟩ := List.mem_map.mp hindex'
  have hcolumns : column = column' := by
    -- The names of the two columns do not end alike.
    have hlast := congrArg (fun folded => folded.toList.getLast?) h
    simp only [List.mem_cons, List.not_mem_nil, or_false] at hcolumn hcolumn'
    rcases hcolumn with rfl | rfl <;> rcases hcolumn' with rfl | rfl
    · rfl
    · rw [getLast?_fold_append _ (by decide), getLast?_fold_append _ (by decide)] at hlast
      exact absurd hlast (by decide)
    · rw [getLast?_fold_append _ (by decide), getLast?_fold_append _ (by decide)] at hlast
      exact absurd hlast (by decide)
    · rfl
  subst hcolumns
  simp only [fold_append, String.append_left_inj, String.append_right_inj] at h
  exact ⟨h, rfl⟩

/-! ## Sound databases -/

/-- What is in the database does not contradict itself. -/
structure Sound (database : Database) : Prop where
  /-- No table has the name of an index. -/
  free : ∀ name, database.hasIndex name = true → database.shape? name = none
  /-- An index that is named after a table and a column is one of this column. -/
  columns : ∀ name, ∀ index ∈ chunkIndexes name, database.hasIndex index.1 = true →
    ∃ columns, (database.shape? name).bind Table.indexColumns? = some columns ∧
      index.2 ∈ columns
  /-- The tables that the database keeps for itself are not of files. -/
  internal : ∀ name columns, database.shape? name = some (.internal columns) →
    "file_name" ∉ columns
  /-- A vector table goes with a chunk table. -/
  paired : ∀ name content, database.shape? (vectorName name) = some (.vectors content) →
    database.shape? name = some (.chunks {})

namespace Sound

variable {before after database : Database}

theorem empty : Sound {} where
  free := by
    intro name h
    cases h
  columns := by
    intro name index _ h
    cases h
  internal := by
    intro name columns h
    rw [shape?, table?] at h
    split at h
    · cases h
      decide
    · cases h
  paired := by
    intro name content h
    rw [shape?, table?] at h
    split at h <;> cases h

theorem sameShape (h : Sound before) (hsame : SameShape before after) : Sound after where
  free := by
    intro name hname
    rw [hsame.hasIndex] at hname
    rw [hsame.tables, h.free name hname]
  columns := by
    intro name index hindex hname
    rw [hsame.hasIndex] at hname
    rw [hsame.tables]
    exact h.columns name index hindex hname
  internal := by
    intro name columns hname
    rw [hsame.tables] at hname
    exact h.internal name columns hname
  paired := by
    intro name content hname
    rw [hsame.tables] at hname ⊢
    exact h.paired name content hname

/-- A table with indexes is a chunk table. -/
theorem chunks_of_indexes (h : Sound database) {name : String}
    (hindexes : ∀ index ∈ chunkIndexes name, database.hasIndex index.1 = true) :
    database.shape? name = some (.chunks {}) := by
  have hmem : ("idx_" ++ name ++ "_" ++ "file_name", "file_name") ∈ chunkIndexes name :=
    List.mem_map_of_mem (by decide)
  obtain ⟨columns, hcolumns, hcolumn⟩ := h.columns name _ hmem (hindexes _ hmem)
  obtain ⟨table, htable, hcolumns⟩ := Option.bind_eq_some_iff.mp hcolumns
  rw [htable]
  -- Neither the vectors nor what is kept with them has file names.
  obtain ⟨content, -, rfl⟩ := Option.map_eq_some_iff.mp htable
  cases content with
  | chunks content => rfl
  | vectors content => cases hcolumns
  | internal columns' =>
    cases hcolumns
    exact absurd hcolumn (h.internal name _ htable)

theorem withTable (h : Sound database) {name : String} {table : Table}
    (hfree : database.hasIndex name = false)
    (hinternal : ∀ columns, table = .internal columns → "file_name" ∉ columns)
    (hpaired : ∀ base content, table = .vectors content → fold (vectorName base) = fold name →
      database.shape? base = some (.chunks {})) :
    Sound (database.addTable name table) where
  free := by
    intro other hother
    rw [shape?_addTable, h.free other hother, if_neg]
    · rfl
    · intro heq
      rw [hasIndex, heq] at hother
      exact Bool.false_ne_true (hfree.symm.trans hother)
  columns := by
    intro other index hindex hother
    obtain ⟨columns, hcolumns, hcolumn⟩ := h.columns other index hindex hother
    obtain ⟨old, hold, hcolumns⟩ := Option.bind_eq_some_iff.mp hcolumns
    rw [shape?_addTable, hold]
    exact ⟨columns, hcolumns, hcolumn⟩
  internal := by
    intro other columns hother
    rw [shape?_addTable] at hother
    rcases Option.or_eq_some_iff.mp hother with hother | ⟨-, hother⟩
    · exact h.internal other columns hother
    · obtain ⟨-, hempty⟩ := Option.ite_none_right_eq_some.mp hother
      cases table <;> cases hempty
      exact hinternal columns rfl
  paired := by
    intro other content hother
    have hbefore : database.shape? other = some (.chunks {}) := by
      rw [shape?_addTable] at hother
      rcases Option.or_eq_some_iff.mp hother with hother | ⟨-, hother⟩
      · exact h.paired other content hother
      · obtain ⟨hname, hempty⟩ := Option.ite_none_right_eq_some.mp hother
        cases table <;> cases hempty
        exact hpaired other _ rfl hname
    rw [shape?_addTable, hbefore]
    rfl

theorem addition (h : Sound before) (hnext : Addition before after) : Sound after := by
  cases hnext with
  | chunks hfree =>
    refine h.withTable hfree (fun _ htable => ?_) (fun _ _ htable => ?_)
    · cases htable
    · cases htable
  | vectors dimensions hindexes hfree =>
    refine h.withTable hfree (fun _ htable => ?_) fun base content _ hname => ?_
    · cases htable
    · rw [shape?_congr (fold_vectorName_inj.mp hname)]
      exact h.chunks_of_indexes hindexes
  | internal hinner hfree =>
    refine h.withTable hfree (fun columns htable => ?_) (fun _ _ htable => ?_)
    · cases htable
      simp only [internalTables, List.mem_cons, List.not_mem_nil, or_false] at hinner
      rcases hinner with rfl | rfl | rfl | rfl <;> simp
    · cases htable
  | @index name index columns hindex htable hcolumn hfree =>
    have hhas : ∀ {other}, ({ before with indexes := before.indexes ++ [fold index.1] } :
        Database).hasIndex other = true → before.hasIndex other = true ∨
          fold other = fold index.1 := by
      intro other hother
      simpa [hasIndex] using hother
    constructor
    · intro other hother
      rcases hhas hother with hother | hother
      · exact h.free other hother
      · exact (shape?_congr hother before).trans (shape?_eq_none.mpr hfree)
    · intro other index' hindex' hother
      rcases hhas hother with hother | hother
      · exact h.columns other index' hindex' hother
      · obtain ⟨hname, hsame⟩ := fold_index_inj hindex' hindex hother
        refine ⟨columns, ?_, hsame ▸ hcolumn⟩
        rw [← htable, ← bind_indexColumns?]
        exact congrArg (Option.bind · _) (shape?_congr hname before)
    · exact h.internal
    · exact h.paired

theorem additions (h : Sound before) (hnext : Additions before after) : Sound after := by
  induction hnext with
  | refl => exact h
  | tail _ hlast ih => exact ih.addition hlast

end Sound

end Database

/-! ## Storing -/

/-- Storing a record changes what two tables hold, and nothing else. -/
theorem Handle.append_sameShape (handle : Handle) {database : Database}
    (h : ∃ content, database.table? handle.tableName = some (.chunks content))
    (record : Record) :
    Database.SameShape database (handle.append record database).2 := by
  rcases handle.append_cases record database with ⟨error, happend⟩ | ⟨after, hinsert, happend⟩
  · rw [happend]
    exact ⟨fun _ => rfl, rfl⟩
  · obtain ⟨vectors, hvectors, -, -, rfl⟩ := insert_ok hinsert
    rw [happend]
    refine ⟨fun name => ?_, rfl⟩
    have hchunks := Database.shape?_eq_chunks.mpr h
    rw [Database.shape?_setTable, Database.shape?_setTable hchunks]
    · rw [Database.shape?_setTable hchunks, Database.shape?, vectorTable_ok hvectors]
      exact congrArg (fun dimensions => some (Table.vectors { dimensions }))
        (dimensions_storeIn handle.writePolicy record (handle.chunkTable database) vectors).symm

end CodeSearch
