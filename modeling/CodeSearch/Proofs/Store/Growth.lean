import CodeSearch.Proofs.Store.Opening
import Mathlib.Logic.Relation

/-!
# How a database grows

Making the tables of a name makes what is missing, one thing after the other, until it is done or
something is in the way. Whatever it comes to, the database has grown by a row of additions, and
each of them was possible when it was made.

- `Database.Addition`: one thing is added, and what allowed it.
- `Database.createTables_additions`: all that making tables does.
- `Database.Additions.settings_eq`, `Database.Additions.hasIndex`, `Database.Additions.table?_eq`:
  what additions leave alone.
- `Database.Additions.table?_cases`: what is added is empty.
-/

namespace CodeSearch

/-- The table without what it holds. -/
def Table.emptied : Table → Table
  | .chunks _ => .chunks {}
  | .vectors content => .vectors { dimensions := content.dimensions }
  | .internal columns => .internal columns

namespace Database

/-- One thing is added to a database. A table does not take the name of an index, nor an index that
of a table, and a vector table comes after the indexes of its chunk table. -/
inductive Addition (before : Database) : Database → Prop
  | chunks {name : String} (hfree : before.hasIndex name = false) :
    Addition before (before.addTable name (.chunks {}))
  | index {name : String} {index : String × String} {columns : List String}
    (hindex : index ∈ chunkIndexes name)
    (htable : (before.table? name).bind Table.indexColumns? = some columns)
    (hcolumn : index.2 ∈ columns) (hfree : before.table? index.1 = none) :
    Addition before { before with indexes := before.indexes ++ [fold index.1] }
  | vectors {name : String} (dimensions : Nat)
    (hindexes : ∀ index ∈ chunkIndexes name, before.hasIndex index.1 = true)
    (hfree : before.hasIndex (vectorName name) = false) :
    Addition before (before.addTable (vectorName name) (.vectors { dimensions }))
  | internal {name : String} {inner : String × List String}
    (hinner : inner ∈ internalTables (vectorName name))
    (hfree : before.hasIndex inner.1 = false) :
    Addition before (before.addTable inner.1 (.internal inner.2))

/-- Things are added to a database, one after the other. -/
abbrev Additions : Database → Database → Prop := Relation.ReflTransGen Addition

/-! ## What making tables does -/

theorem createChunks_additions (name : String) (database : Database) :
    Additions database (createChunks name database).1 := by
  rw [createChunks]
  split
  · exact .refl
  · split
    · exact .refl
    · split
      · exact .refl
      · next hfree => exact .single (.chunks (Bool.eq_false_iff.mpr hfree))

theorem createIndex_additions {name : String} {index : String × String}
    (hindex : index ∈ chunkIndexes name) (database : Database) :
    Additions database (createIndex name index.1 index.2 database).1 := by
  rw [createIndex]
  split
  · exact .refl
  · next columns htable =>
    split
    · exact .refl
    · next hfree =>
      split
      · exact .refl
      · split
        · exact .refl
        · next hcolumn =>
          refine .single (.index hindex htable ?_ ?_)
          · simpa using hcolumn
          · simpa using hfree

/-- The tables in which a vector table keeps its content are added one by one. -/
theorem foldl_internal_additions {name : String} {inner : List (String × List String)}
    {database : Database} (hinner : inner ⊆ internalTables (vectorName name))
    (hfree : ∀ table ∈ inner, database.hasIndex table.1 = false) :
    Additions database (inner.foldl
      (fun database table => database.addTable table.1 (.internal table.2)) database) := by
  induction inner generalizing database with
  | nil => exact .refl
  | cons first inner ih =>
    refine .head (.internal (hinner List.mem_cons_self) (hfree _ List.mem_cons_self)) (ih ?_ ?_)
    · exact fun table htable => hinner (List.mem_cons_of_mem _ htable)
    · -- A new table is no new index.
      exact fun table htable => hfree table (List.mem_cons_of_mem _ htable)

theorem createVectors_additions {name : String} (dimensions : Nat) {database : Database}
    (hindexes : ∀ index ∈ chunkIndexes name, database.hasIndex index.1 = true) :
    Additions database (createVectors (vectorName name) dimensions database).1 := by
  rw [createVectors]
  split
  · exact .refl
  · split
    · exact .refl
    · next hfree =>
      dsimp only
      split
      · exact .refl
      · split
        · exact .refl
        · next hinner =>
          refine .head (.vectors _ hindexes (Bool.eq_false_iff.mpr hfree))
            (foldl_internal_additions (List.Subset.refl _) fun table htable => ?_)
          have hnone := List.find?_eq_none.mp hinner table htable
          simp only [Bool.or_eq_true, not_or] at hnone
          exact Bool.eq_false_iff.mpr hnone.2

theorem Change.andThen_additions {database : Database} {change : Change}
    {next : Database → Change} (hchange : Additions database change.1)
    (hnext : ∀ before, change = (before, none) → Additions before (next before).1) :
    Additions database (Change.andThen change next).1 := by
  obtain ⟨before, fault⟩ := change
  cases fault with
  | some fault => exact hchange
  | none => exact hchange.trans (hnext before rfl)

/-- Indexes of a table are made one by one. -/
theorem createIndexes_additions {name : String} {indexes : List (String × String)}
    (hindexes : indexes ⊆ chunkIndexes name) (change : Change) :
    Additions change.1 (indexes.foldl
      (fun change index => Change.andThen change (createIndex name index.1 index.2)) change).1 := by
  refine List.foldlRecOn (motive := fun made : Change => Additions change.1 made.1) _ _ .refl ?_
  intro made hmade index hindex
  exact Change.andThen_additions hmade fun before _ =>
    createIndex_additions (hindexes hindex) before

/-- All that comes before the vector table: the chunk table and its indexes. -/
def createIndexed (name : String) (database : Database) : Change :=
  (chunkIndexes name).foldl
    (fun change index => Change.andThen change (createIndex name index.1 index.2))
    (createChunks name database)

theorem createTables_eq_andThen (name : String) (dimensions : Nat) (database : Database) :
    createTables name dimensions database =
      Change.andThen (createIndexed name database) (createVectors (vectorName name) dimensions) :=
  rfl

theorem createIndexed_additions (name : String) (database : Database) :
    Additions database (createIndexed name database).1 :=
  (createChunks_additions name database).trans (createIndexes_additions (List.Subset.refl _) _)

theorem hasIndex_of_createIndexed {name : String} {database after : Database}
    (h : createIndexed name database = (after, none)) :
    ∀ index ∈ chunkIndexes name, after.hasIndex index.1 = true := by
  rw [createIndexed] at h
  obtain ⟨withChunks, hchunks⟩ := Change.foldl_andThen_ok h
  rw [hchunks] at h
  exact fun index hindex => ((createIndexes_ok h).2.2.2 index hindex).2

/-- The vector table comes last. -/
theorem createIndexed_additions_createTables (name : String) (dimensions : Nat)
    (database : Database) :
    Additions (createIndexed name database).1 (createTables name dimensions database).1 :=
  Change.andThen_additions .refl fun _ h =>
    createVectors_additions dimensions (hasIndex_of_createIndexed h)

theorem createTables_additions (name : String) (dimensions : Nat) (database : Database) :
    Additions database (createTables name dimensions database).1 :=
  (createIndexed_additions name database).trans
    (createIndexed_additions_createTables name dimensions database)

/-! ## What additions do -/

section

variable {before after : Database} {name : String}

theorem Addition.settings_eq (h : Addition before after) : after.settings = before.settings := by
  cases h <;> rfl

theorem Additions.settings_eq (h : Additions before after) :
    after.settings = before.settings := by
  induction h with
  | refl => rfl
  | tail _ hlast ih => exact hlast.settings_eq.trans ih

theorem Additions.setting?_eq (h : Additions before after) (table key : String) :
    after.setting? table key = before.setting? table key := by
  rw [setting?, setting?, h.settings_eq]

theorem Addition.hasIndex (h : Addition before after) (hname : before.hasIndex name = true) :
    after.hasIndex name = true := by
  cases h with
  | index =>
    rw [Database.hasIndex, List.contains_iff_mem] at hname ⊢
    exact List.mem_append_left _ hname
  | chunks => exact hname
  | vectors => exact hname
  | internal => exact hname

theorem Additions.hasIndex (h : Additions before after) (hname : before.hasIndex name = true) :
    after.hasIndex name = true := by
  induction h with
  | refl => exact hname
  | tail _ hlast ih => exact hlast.hasIndex ih

/-- Tables stay, with all that they hold. -/
theorem Addition.table?_eq (h : Addition before after) {table : Table}
    (hname : before.table? name = some table) : after.table? name = some table := by
  cases h with
  | index => exact hname
  | chunks => exact table?_addTable_of_some hname _ _
  | vectors => exact table?_addTable_of_some hname _ _
  | internal => exact table?_addTable_of_some hname _ _

theorem Additions.table?_eq (h : Additions before after) {table : Table}
    (hname : before.table? name = some table) : after.table? name = some table := by
  induction h with
  | refl => exact hname
  | tail _ hlast ih => exact hlast.table?_eq ih

/-- A table was there before, or it is new and holds nothing. -/
theorem Addition.table?_cases (h : Addition before after) {table : Table}
    (hname : after.table? name = some table) :
    before.table? name = some table ∨ table.emptied = table := by
  have hadded : ∀ {other new}, new.emptied = new →
      (before.addTable other new).table? name = some table →
        before.table? name = some table ∨ table.emptied = table := by
    intro other new hempty hadded
    rw [table?_addTable] at hadded
    rcases Option.or_eq_some_iff.mp hadded with hbefore | ⟨-, hnew⟩
    · exact Or.inl hbefore
    · obtain ⟨-, hnew⟩ := Option.ite_none_right_eq_some.mp hnew
      obtain rfl := Option.some.inj hnew
      exact Or.inr hempty
  cases h with
  | index => exact Or.inl hname
  | chunks => exact hadded rfl hname
  | vectors => exact hadded rfl hname
  | internal => exact hadded rfl hname

theorem Additions.table?_cases (h : Additions before after) {table : Table}
    (hname : after.table? name = some table) :
    before.table? name = some table ∨ table.emptied = table := by
  induction h with
  | refl => exact Or.inl hname
  | tail _ hlast ih =>
    rcases hlast.table?_cases hname with hname | hempty
    · exact ih hname
    · exact Or.inr hempty

/-- Whatever is added, the same chunks are seen under every name. -/
theorem Additions.chunks?_getD_eq (h : Additions before after) (name : String) :
    (after.chunks? name).getD {} = (before.chunks? name).getD {} := by
  cases hbefore : before.table? name with
  | some table => rw [chunks?, chunks?, h.table?_eq hbefore, hbefore]
  | none =>
    rw [chunks?, chunks?, hbefore]
    cases hafter : after.table? name with
    | none => rfl
    | some table =>
      rcases h.table?_cases hafter with hsame | hempty
      · cases hbefore.symm.trans hsame
      · cases table with
        | chunks content =>
          obtain rfl := Table.chunks.inj hempty
          rfl
        | vectors content => rfl
        | internal columns => rfl

end

end Database

end CodeSearch
