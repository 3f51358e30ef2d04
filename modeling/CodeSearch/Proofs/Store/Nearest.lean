import CodeSearch.Proofs.Indexing.Filling
import CodeSearch.Proofs.Store.Numbers

/-!
# How a search for near vectors ends

The search looks at its limit first, then at the length of the query, and only then at the tables.

- `Handle.CanSearch`: the tables of a handle can be searched for vectors.
- `Handle.nearest_cases`: the four ways in which the search ends; `Handle.nearest_ne_mismatch`.
- `Handle.mem_records_of_nearest`: what it finds are records of the table.
- `Session.Keeps.canSearch_iff`: which handles can search the table of a ledger.
-/

namespace CodeSearch

namespace Handle

variable {handle : Handle} {database : Database} {query : Vector} {limit : Nat}

/-- The name of the table is not hidden by the query, and its vector table takes vectors of the
length that the handle asks for. -/
structure CanSearch (handle : Handle) (database : Database) : Prop where
  visible : Database.fold handle.tableName ≠ candidatesName
  table : handle.HasDimensions database handle.dimensions

/-- A missing vector table is the only thing that is wrong with a vector table. -/
theorem vectorTable_eq_error {error : StoreError} (h : handle.vectorTable database = .error error) :
    error = .database (.nameTaken handle.vectorName) := by
  rw [vectorTable] at h
  split at h
  · cases h
  · cases h
    rfl

/-- What is wrong when the vector table does not take vectors of the length that the handle asks
for. -/
theorem vectorTable_cases_of_not (h : ¬ handle.HasDimensions database handle.dimensions) :
    handle.vectorTable database = .error (.database (.nameTaken handle.vectorName)) ∨
      ∃ vectors, handle.vectorTable database = .ok vectors ∧
        handle.dimensions ≠ vectors.dimensions := by
  cases hvectors : handle.vectorTable database with
  | error error => exact Or.inl (by rw [vectorTable_eq_error hvectors])
  | ok vectors => exact Or.inr ⟨vectors, rfl, fun heq => h ⟨rfl, vectors, hvectors, heq.symm⟩⟩

theorem nearest_of_canSearch (h : handle.CanSearch database)
    (hlength : query.length = handle.dimensions) (limit : Nat) :
    ∃ found, handle.nearest query limit database = .ok found := by
  obtain ⟨vectors, hvectors, hdimensions⟩ := h.table.table
  unfold nearest
  by_cases hlimit : limit = 0
  · rw [if_pos hlimit]
    exact ⟨[], rfl⟩
  · rw [if_neg hlimit, if_neg (not_not.mpr hlength), if_neg h.visible, hvectors]
    show ∃ found, (if query.length ≠ vectors.dimensions then _ else _) = _
    rw [if_neg (not_not.mpr (hlength.trans hdimensions.symm))]
    exact ⟨_, rfl⟩

/-- Tables that cannot be searched are noticed when there is something to look for. -/
theorem nearest_of_not_canSearch (h : ¬ handle.CanSearch database) (hlimit : limit ≠ 0)
    (hlength : query.length = handle.dimensions) :
    ∃ fault, handle.nearest query limit database = .error (.database fault) := by
  unfold nearest
  rw [if_neg hlimit, if_neg (not_not.mpr hlength)]
  by_cases hname : Database.fold handle.tableName = candidatesName
  · rw [if_pos hname]
    exact ⟨_, rfl⟩
  · rw [if_neg hname]
    rcases vectorTable_cases_of_not fun htable => h ⟨hname, htable⟩ with
      hvectors | ⟨vectors, hvectors, hdimensions⟩
    · rw [hvectors]
      exact ⟨_, rfl⟩
    · rw [hvectors]
      show ∃ fault, (if query.length ≠ vectors.dimensions then _ else _) = _
      rw [if_pos (hlength ▸ hdimensions)]
      exact ⟨_, rfl⟩

/-- The ways in which a search for near vectors ends. -/
theorem nearest_cases (handle : Handle) (query : Vector) (limit : Nat) (database : Database) :
    (limit = 0 ∧ handle.nearest query limit database = .ok []) ∨
    (limit ≠ 0 ∧ query.length ≠ handle.dimensions ∧
      handle.nearest query limit database =
        .error (.dimensionMismatch handle.dimensions query.length)) ∨
    (limit ≠ 0 ∧ query.length = handle.dimensions ∧ ¬ handle.CanSearch database ∧
      ∃ fault, handle.nearest query limit database = .error (.database fault)) ∨
    (limit ≠ 0 ∧ query.length = handle.dimensions ∧ handle.CanSearch database ∧
      ∃ found, handle.nearest query limit database = .ok found) := by
  by_cases hlimit : limit = 0
  · left
    refine ⟨hlimit, ?_⟩
    unfold nearest
    rw [if_pos hlimit]
    rfl
  · right
    by_cases hlength : query.length = handle.dimensions
    · right
      by_cases hcan : handle.CanSearch database
      · exact Or.inr ⟨hlimit, hlength, hcan, nearest_of_canSearch hcan hlength limit⟩
      · exact Or.inl ⟨hlimit, hlength, hcan, nearest_of_not_canSearch hcan hlimit hlength⟩
    · left
      refine ⟨hlimit, hlength, ?_⟩
      unfold nearest
      rw [if_neg hlimit, if_pos hlength]
      rfl

/-- A query is not refused because of its vector if that has the right length. -/
theorem nearest_ne_mismatch (hlength : query.length = handle.dimensions) (limit : Nat)
    (database : Database) (expected actual : Nat) :
    handle.nearest query limit database ≠ .error (.dimensionMismatch expected actual) := by
  intro h
  rcases handle.nearest_cases query limit database with
    ⟨-, hnearest⟩ | ⟨-, hother, -⟩ | ⟨-, -, -, fault, hnearest⟩ | ⟨-, -, -, found, hnearest⟩
  · rw [hnearest] at h
    cases h
  · exact hother hlength
  · rw [hnearest] at h
    cases h
  · rw [hnearest] at h
    cases h

/-- What is found for a query is among the records of the table. -/
theorem mem_records_of_nearest {records found : List Record}
    (hrecords : handle.records database = .ok records)
    (h : handle.nearest query limit database = .ok found) : found ⊆ records := by
  cases hvectors : handle.vectorTable database with
  | error error =>
    rw [Handle.records, hvectors] at hrecords
    cases hrecords
  | ok vectors =>
    rw [Handle.records, hvectors] at hrecords
    cases hrecords
    obtain ⟨rows, hrows, rfl⟩ := nearest_ok rfl hvectors h
    exact List.map_subset _ hrows

end Handle

namespace Session.Keeps

variable {name : String} {dimensions : Nat} {session : Session} {ledger : Ledger} {handle : Handle}

/-- A handle can search its table if the name of the table is not hidden and the handle asks for
vectors of the length that the table takes. -/
theorem canSearch_iff (h : Keeps name dimensions session ledger)
    (hname : Database.fold handle.tableName = Database.fold name) :
    handle.CanSearch session.database ↔
      Database.fold name ≠ Handle.candidatesName ∧ handle.dimensions = dimensions := by
  obtain ⟨chunks, vectors, -, hvectors, -, hdimensions⟩ := h.tables
  have htable := Handle.vectorTable_of_fold hname hvectors
  constructor
  · rintro ⟨hvisible, hown⟩
    exact ⟨hname ▸ hvisible, h.eq_of_hasDimensions hname hown⟩
  · rintro ⟨hvisible, hown⟩
    exact ⟨hname ▸ hvisible, rfl, vectors, htable, hdimensions.trans hown.symm⟩

end Session.Keeps

end CodeSearch
