import CodeSearch.Proofs.Store.Nearest
import CodeSearch.Proofs.Store.NearestVectors

/-!
# The nearest records of a table

A search for near vectors looks through the vector table, finds the rows of the chunk table by their
numbers, and reads their vectors once more. All of it together ranks the records of the table by
their distance from the query, and gives the first of them.

- `Record.AreRanked`: records in the order of their distance from a query.
- `Represents.exists_ranked`: what a search reads from two tables that hold a list of records.
- `Session.Keeps.nearest_eq`: the search of a table; `Session.nearest_performAll` says how it ends
  in every case, after all events.
- `Session.nearest_of_hidden`: a table that holds a record, and cannot be searched.
-/

namespace CodeSearch

namespace Record

/-- The distance of the vector of a record from a query. -/
def distance (query : Vector) (record : Record) : Single := Vector.distance record.embedding query

/-- The records `ranked` are all of `records`, nearest to the query first. -/
structure AreRanked (query : Vector) (records ranked : List Record) : Prop where
  perm : ranked.Perm records
  ordered : ranked.Pairwise fun record next =>
    (record.distance query).le (next.distance query) = true

end Record

/-! ## Two tables -/

namespace Numbered

/-- The number and the distance of a numbered record. -/
def ranked (query : Vector) (pair : Numbered) : VectorTable.Ranked :=
  ⟨pair.1, pair.2.distance query⟩

/-- The number and the distance of a record are those of its slot. -/
theorem ranked_slot (query : Vector) (pair : Numbered) :
    VectorTable.ranked query pair.slot = pair.ranked query := by
  rw [VectorTable.ranked, slot, Vector.decode_encode]
  rfl

end Numbered

namespace Represents

variable {chunks : ChunkTable} {vectors : VectorTable} {numbered : List Numbered}
  {query : Vector}

/-- The row of a numbered record is found by its number, and reads back as the record. -/
theorem record_of_number (h : Represents chunks vectors numbered) {pair : Numbered}
    (hpair : pair ∈ numbered) :
    (chunks.row? pair.1).map (Handle.recordOf vectors) = some pair.2 := by
  have hrow : chunks.row? pair.1 = some pair.row := by
    cases hfound : chunks.row? pair.1 with
    | none =>
      have hnone := List.find?_eq_none.mp hfound pair.row
        (h.rows ▸ List.mem_map_of_mem hpair)
      exact absurd (beq_self_eq_true pair.1) hnone
    | some row =>
      have hnumber := List.find?_some hfound
      obtain ⟨other, hother, rfl⟩ :=
        List.mem_map.mp (h.rows ▸ List.mem_of_find?_eq_some hfound)
      rw [h.eq_of_fst_eq hother hpair (beq_iff_eq.mp hnumber)]
  rw [hrow, Option.map_some, h.recordOf_row hpair]

/-- A search of two tables that hold a list of records ranks the list. -/
theorem exists_ranked (h : Represents chunks vectors numbered)
    (hmeasured : ∀ pair ∈ numbered, (pair.2.distance query).isNaN = false) :
    ∃ ranked, Record.AreRanked query (numbered.map Prod.snd) ranked ∧
      ∀ count, ((vectors.nearest query count).filterMap chunks.row?).map
        (Handle.recordOf vectors) = ranked.take count := by
  have hslots : (vectors.slots.map (VectorTable.ranked query)).Perm
      (numbered.map (Numbered.ranked query)) := by
    refine (h.slots.map _).trans (.of_eq ?_)
    rw [List.map_map]
    exact List.map_congr_left fun pair _ => pair.ranked_slot query
  obtain ⟨pairs, hranking, hpairs⟩ : Relation.Comp (· = List.map (Numbered.ranked query) ·)
      List.Perm (vectors.ranking query) numbered := by
    rw [List.eq_map_comp_perm]
    exact (vectors.ranking_perm query).trans hslots
  have hkept : ∀ pair ∈ pairs, pair ∈ numbered := fun pair hpair => hpairs.mem_iff.mp hpair
  refine ⟨pairs.map Prod.snd, ⟨hpairs.map _, ?_⟩, ?_⟩
  · have hsorted := vectors.sorted_ranking query
    rw [hranking, Sorting.Sorted, List.pairwise_map] at hsorted
    refine List.pairwise_map.mpr (hsorted.imp_of_mem ?_)
    intro pair next hpair hnext hcloser
    rw [← hcloser]
    exact VectorTable.le_eq_closer (a := pair.ranked query) (b := next.ranked query)
      (hmeasured pair (hkept pair hpair)) (hmeasured next (hkept next hnext))
  · intro count
    have hslots : ∀ slot ∈ vectors.slots,
        (Vector.distance (Vector.decode slot.bytes) query).isNaN = false := by
      intro slot hslot
      obtain ⟨pair, hpair, rfl⟩ := List.mem_map.mp (h.slots.mem_iff.mp hslot)
      rw [Numbered.slot, Vector.decode_encode]
      exact hmeasured pair hpair
    rw [vectors.nearest_eq h.nodup_slots hslots count, hranking, ← List.map_take, List.map_map,
      List.map_filterMap, List.filterMap_map, ← List.map_take, ← List.filterMap_eq_map]
    refine List.filterMap_congr fun pair hpair => ?_
    exact h.record_of_number (hkept pair (List.mem_of_mem_take hpair))

end Represents

/-! ## A handle -/

namespace Handle

variable {handle : Handle} {database : Database} {chunks : ChunkTable} {vectors : VectorTable}
  {query : Vector} {limit : Nat}

/-- A search of tables that can be searched looks up the numbers of the nearest vectors. -/
theorem nearest_eq_ok (h : handle.CanSearch database)
    (hlength : query.length = handle.dimensions) (hlimit : limit ≠ 0)
    (hchunks : handle.chunkTable database = chunks)
    (hvectors : handle.vectorTable database = .ok vectors) :
    handle.nearest query limit database =
      .ok (((vectors.nearest query (min limit maxNearest)).filterMap chunks.row?).map
        (recordOf vectors)) := by
  obtain ⟨other, hother, hdimensions⟩ := h.table.table
  rw [hvectors] at hother
  cases hother
  unfold nearest
  rw [if_neg hlimit, if_neg (not_not.mpr hlength), if_neg h.visible, hvectors, hchunks]
  show (if query.length ≠ vectors.dimensions then _ else _) = _
  rw [if_neg (not_not.mpr (hlength.trans hdimensions.symm))]
  rfl

theorem nearest_zero (handle : Handle) (query : Vector) (database : Database) :
    handle.nearest query 0 database = .ok [] := rfl

/-- A query of another length is refused, if anything is asked for. -/
theorem nearest_of_length_ne (hlength : query.length ≠ handle.dimensions) (hlimit : limit ≠ 0)
    (database : Database) :
    handle.nearest query limit database =
      .error (.dimensionMismatch handle.dimensions query.length) := by
  unfold nearest
  rw [if_neg hlimit, if_pos hlength]
  rfl

end Handle

/-! ## All events -/

namespace Session

/-- A handle that can search its table gives the beginning of the ranking of its records. -/
theorem Keeps.nearest_eq {name : String} {dimensions : Nat} {session : Session} {ledger : Ledger}
    {handle : Handle} {query : Vector} (h : Keeps name dimensions session ledger)
    (hname : Database.fold handle.tableName = Database.fold name)
    (hcan : handle.CanSearch session.database) (hlength : query.length = handle.dimensions)
    (hmeasured : ∀ record ∈ ledger.records, (record.distance query).isNaN = false) :
    ∃ ranked, Record.AreRanked query ledger.records ranked ∧
      ∀ limit, handle.nearest query limit session.database =
        .ok (ranked.take (min limit Handle.maxNearest)) := by
  obtain ⟨chunks, vectors, hchunks, hvectors, hrecorded, -⟩ := h.tables
  have hkept : ∀ pair ∈ ledger.kept, (pair.2.distance query).isNaN = false := fun pair hpair =>
    hmeasured pair.2 (List.mem_map_of_mem hpair)
  obtain ⟨ranked, hranked, hnearest⟩ := hrecorded.represents.exists_ranked hkept
  refine ⟨ranked, hranked, fun limit => ?_⟩
  by_cases hlimit : limit = 0
  · rw [hlimit, Nat.zero_min, List.take_zero, Handle.nearest_zero]
  · rw [Handle.nearest_eq_ok hcan hlength hlimit (Handle.chunkTable_of_fold hname hchunks)
      (Handle.vectorTable_of_fold hname hvectors), hnearest]

/-- Whatever is opened and stored in the database of a new table, a search for the nearest records
through a handle of the table gives the beginning of one ranking of all records of the table: as
many as are asked for, but no more than 4096 and no more than there are. Nothing is looked at when
none are asked for, and a query of another length than the handle asks for is refused. Such a search
needs that the table does not have the one name that the search gives to its candidates, and that
the handle asks for vectors of the length that the table takes; otherwise it is an error. -/
theorem nearest_performAll {options : StoreOptions} {start after : Database} {first : Handle}
    (hchunks : start.table? options.tableName = none)
    (hvectors : start.table? (Database.vectorName options.tableName) = none)
    (hopen : Handle.openTable options start = (after, .ok first)) (events : List Event) :
    let begun : Session := { database := after, handles := [first] }
    let session := begun.performAll events
    let records := (begun.ledgerAfter options.tableName {} events).records
    ∃ dimensions,
      (options.dimensions ≤ VectorTable.maxDimensions → dimensions = options.dimensions) ∧
      ∀ handle : Handle, Database.fold handle.tableName = Database.fold options.tableName →
        (handle.CanSearch session.database ↔
          Database.fold options.tableName ≠ Handle.candidatesName ∧
            handle.dimensions = dimensions) ∧
        ∀ query : Vector,
          handle.nearest query 0 session.database = .ok [] ∧
          (query.length ≠ handle.dimensions → ∀ limit, limit ≠ 0 →
            handle.nearest query limit session.database =
              .error (.dimensionMismatch handle.dimensions query.length)) ∧
          (query.length = handle.dimensions → ¬ handle.CanSearch session.database →
            ∀ limit, limit ≠ 0 → ∃ fault,
              handle.nearest query limit session.database = .error (.database fault)) ∧
          (query.length = handle.dimensions → handle.CanSearch session.database →
            (∀ record ∈ records, (record.distance query).isNaN = false) →
            ∃ ranked, Record.AreRanked query records ranked ∧
              ∀ limit, ∃ found left, ranked = found ++ left ∧
                found.length = min limit (min Handle.maxNearest records.length) ∧
                handle.nearest query limit session.database = .ok found) := by
  intro begun session records
  obtain ⟨dimensions, hkeeps, hsupported⟩ := Keeps.of_openTable hchunks hvectors hopen events
  refine ⟨dimensions, hsupported, ?_⟩
  intro handle hname
  refine ⟨hkeeps.canSearch_iff hname, fun query => ⟨?_, ?_, ?_, ?_⟩⟩
  · exact handle.nearest_zero query session.database
  · intro hlength limit hlimit
    exact Handle.nearest_of_length_ne hlength hlimit session.database
  · intro hlength hcan limit hlimit
    exact Handle.nearest_of_not_canSearch hcan hlimit hlength
  · intro hlength hcan hmeasured
    obtain ⟨ranked, hranked, hnearest⟩ := hkeeps.nearest_eq hname hcan hlength hmeasured
    refine ⟨ranked, hranked, fun limit => ?_⟩
    refine ⟨_, _, (List.take_append_drop (min limit Handle.maxNearest) ranked).symm, ?_,
      hnearest limit⟩
    rw [List.length_take, hranked.perm.length_eq, Nat.min_assoc]

/-- A record is replaced, and comes back behind the one that replaced it. Two of the three records
that are left are equally far from the query. -/
theorem nearest_performAll_of_three :
    let options : StoreOptions := { dimensions := 1 }
    let handle := options.handle .append
    let one : Single := ⟨0x3F800000⟩
    let first : Record := { (default : Record) with id := "a", embedding := [Single.zero] }
    let second : Record := { first with id := "b", embedding := [one] }
    let third : Record := { first with id := "a", embedding := [⟨0x40000000⟩] }
    let session := performAll { database := (Handle.openTable options {}).1, handles := [handle] }
      [.storing 0 first, .storing 0 second,
        .opening { options with writePolicy := .upsert }, .storing 1 third, .storing 0 first]
    ∃ found left, handle.nearest [one] 2 session.database = .ok found ∧ found.length = 2 ∧
      Record.AreRanked [one] [second, third, first] (found ++ left) := by
  intro options handle one first second third session
  obtain ⟨dimensions, hsupported, hall⟩ := nearest_performAll (by decide) (by decide) openTable_one
    [.storing 0 first, .storing 0 second,
      .opening { options with writePolicy := .upsert }, .storing 1 third, .storing 0 first]
  obtain rfl := hsupported (by decide)
  obtain ⟨hcan, hsearch⟩ := hall handle rfl
  obtain ⟨-, -, -, hranking⟩ := hsearch [one]
  have hrecords : (ledgerAfter options.tableName
      { database := (Handle.openTable options {}).1, handles := [handle] } {}
      [.storing 0 first, .storing 0 second, .opening { options with writePolicy := .upsert },
        .storing 1 third, .storing 0 first]).records = [second, third, first] := by
    decide +kernel
  obtain ⟨ranked, hranked, hnearest⟩ := hranking rfl (hcan.mpr ⟨by decide +kernel, rfl⟩)
    (by rw [hrecords]; decide +kernel)
  obtain ⟨found, left, rfl, hlength, hfound⟩ := hnearest 2
  rw [hrecords] at hranked hlength
  exact ⟨found, left, hfound, hlength, hranked⟩

/-- A table can have the name that the search gives to its candidates. It takes a record, and then a
search with a query of the right length is an error. -/
theorem nearest_of_hidden :
    let options : StoreOptions := { tableName := "knn", dimensions := 4 }
    let handle := options.handle .append
    let record : Record := { (default : Record) with id := "a", embedding := Vector.zero 4 }
    ∃ database stored, Handle.openTable options {} = (database, .ok handle) ∧
      handle.append record database = (.ok (), stored) ∧
      handle.records stored = .ok [record] ∧
      record.distance (Vector.zero 4) = Single.zero ∧
      handle.nearest (Vector.zero 4) 10 stored = .error (.database (.hiddenTable "knn")) := by
  intro options handle record
  refine ⟨(Handle.openTable options {}).1,
    (handle.append record (Handle.openTable options {}).1).2, Prod.ext rfl ?_, Prod.ext ?_ rfl, ?_,
    ?_, ?_⟩
  all_goals decide +kernel

end Session

end CodeSearch
