import CodeSearch.Proofs.Store.Ledger

/-!
# Numbers of rows

A chunk table and its vector table are two tables, and nothing but the numbers of their rows holds
them together. They stay in step whatever is opened and stored: the same numbers are in both, each
number belongs to one record for good, and so a record that is found has the vector that it came
with.

- `InStep`: a chunk table and its vector table are in step with the records that were taken.
- `Ledger.mem_kept_ledgerAfter`: a number that was given out is not given again.
- `Handle.nearest_ok`, `Handle.keyword_ok`: what a query finds are rows.
- `Session.inStep_performAll`: all of it, for a new table and all events.
-/

namespace CodeSearch

/-! ## Tables in step -/

/-- A chunk table and its vector table are in step, and what they hold are records that were
taken. -/
structure InStep (taken : List Record) (chunks : ChunkTable) (vectors : VectorTable) : Prop where
  /-- The same numbers are in both tables. -/
  numbers : ∀ number,
    number ∈ vectors.slots.map Slot.number ↔ number ∈ chunks.rows.map Row.number
  /-- No number has two vectors. -/
  once : (vectors.slots.map Slot.number).Nodup
  /-- Numbers increase along the rows. -/
  increasing : (chunks.rows.map Row.number).Pairwise (· < ·)
  /-- The next number counts the records that were taken. -/
  next : chunks.nextNumber = taken.length + 1
  /-- The number of a row is the place of its record among those that were taken, and the row is
  this record, vector included. -/
  record : ∀ row ∈ chunks.rows, ∃ place,
    row.number = place + 1 ∧ taken[place]? = some (Handle.recordOf vectors row)
  /-- Every vector has the number of dimensions of its table, four bytes for each. -/
  lengths : ∀ slot ∈ vectors.slots,
    (Vector.decode slot.bytes).length = vectors.dimensions ∧
    slot.bytes.length = 4 * vectors.dimensions

namespace Ledger.Recorded

variable {ledger : Ledger} {chunks : ChunkTable} {vectors : VectorTable}

theorem inStep (h : Recorded ledger chunks vectors) : InStep ledger.taken chunks vectors where
  numbers := by
    intro number
    have hrows : chunks.rows.map Row.number = ledger.kept.map Prod.fst := by
      rw [h.represents.rows, List.map_map]
      rfl
    have hslots : (vectors.slots.map Slot.number).Perm (ledger.kept.map Prod.fst) := by
      refine (h.represents.slots.map _).trans ?_
      rw [List.map_map]
      exact .refl _
    rw [hrows, hslots.mem_iff]
  once := h.represents.nodup_slots
  increasing := by
    rw [h.represents.rows, List.map_map]
    exact h.represents.increasing
  next := by rw [ChunkTable.nextNumber, h.last]
  record := by
    intro row hrow
    rw [h.represents.rows] at hrow
    obtain ⟨pair, hpair, rfl⟩ := List.mem_map.mp hrow
    obtain ⟨hpositive, hplace⟩ := h.places pair hpair
    refine ⟨pair.1 - 1, (Nat.sub_add_cancel hpositive).symm, ?_⟩
    rw [hplace, h.represents.recordOf_row hpair]
  lengths := by
    intro slot hslot
    obtain ⟨pair, hpair, rfl⟩ := List.mem_map.mp (h.represents.slots.mem_iff.mp hslot)
    have hlength := h.lengths pair hpair
    rw [Numbered.slot, Vector.decode_encode, Vector.length_encode, hlength]
    exact ⟨rfl, rfl⟩

/-- A row stands for an entry of the ledger, and every entry has its row. -/
theorem mem_rows_iff (h : Recorded ledger chunks vectors) {row : Row} :
    row ∈ chunks.rows ↔ ∃ pair ∈ ledger.kept, pair.row = row := by
  rw [h.represents.rows, List.mem_map]

end Ledger.Recorded

/-! ## Numbers are not given twice -/

namespace Session

variable {name : String}

/-- What an event enters gets the next number. -/
theorem mem_kept_enter {session : Session} {ledger : Ledger} {event : Event} {pair : Numbered}
    (h : pair ∈ (session.enter name ledger event).kept) :
    pair ∈ ledger.kept ∨ ledger.taken.length < pair.1 := by
  cases event with
  | opening options => exact Or.inl h
  | storing index record =>
    rw [enter] at h
    split at h
    · split at h
      · rcases Ledger.mem_kept_put.mp h with h | rfl
        · exact Or.inl (Ledger.mem_of_mem_remaining h)
        · exact Or.inr (Nat.lt_succ_self _)
      · exact Or.inl h
    · exact Or.inl h

/-- Records that were taken stay taken. -/
theorem length_taken_le_enter (session : Session) (ledger : Ledger) (event : Event) :
    ledger.taken.length ≤ (session.enter name ledger event).taken.length := by
  cases event with
  | opening options => exact Nat.le_refl _
  | storing index record =>
    rw [enter]
    split
    · split
      · rw [Ledger.put, List.length_append]
        exact Nat.le_add_right _ _
      · exact Nat.le_refl _
    · exact Nat.le_refl _

/-- What comes in later gets numbers beyond all that were given out, whatever became of those. -/
theorem mem_kept_ledgerAfter {session : Session} {ledger : Ledger} {events : List Event}
    {pair : Numbered} (h : pair ∈ (session.ledgerAfter name ledger events).kept) :
    pair ∈ ledger.kept ∨ ledger.taken.length < pair.1 := by
  induction events generalizing session ledger with
  | nil => exact Or.inl h
  | cons event events ih =>
    rcases ih h with h | h
    · exact mem_kept_enter h
    · exact Or.inr (Nat.lt_of_le_of_lt (length_taken_le_enter session ledger event) h)

end Session

/-! ## What queries find -/

namespace Handle

/-- What a query finds are rows of the chunk table, each read with its vector. -/
def IsRead (chunks : ChunkTable) (vectors : VectorTable) (found : List Record) : Prop :=
  ∃ rows, rows ⊆ chunks.rows ∧ found = rows.map (recordOf vectors)

/-- What a query finds are, for some rows of the chunk table, the records that were taken under
their numbers. -/
def IsAsTaken (taken : List Record) (chunks : ChunkTable) (found : List Record) : Prop :=
  ∃ rows, rows ⊆ chunks.rows ∧ found.map some = rows.map fun row => taken[row.number - 1]?

variable {handle : Handle} {database : Database} {chunks : ChunkTable} {vectors : VectorTable}
  {found : List Record}

theorem isRead_nil : IsRead chunks vectors [] := ⟨[], List.nil_subset _, rfl⟩

/-- Numbers without a row are passed over. -/
theorem filterMap_row?_subset (numbers : List Nat) :
    numbers.filterMap chunks.row? ⊆ chunks.rows := by
  intro row hrow
  obtain ⟨number, -, hfound⟩ := List.mem_filterMap.mp hrow
  exact List.mem_of_find?_eq_some hfound

theorem takeLimit_subset {α : Type} (limit : Nat) (items : List α) :
    takeLimit limit items ⊆ items := by
  rw [takeLimit]
  split
  · exact List.take_subset limit items
  · exact List.Subset.refl items

theorem nearest_ok {query : Vector} {limit : Nat} (hchunks : handle.chunkTable database = chunks)
    (hvectors : handle.vectorTable database = .ok vectors)
    (h : handle.nearest query limit database = .ok found) : IsRead chunks vectors found := by
  rw [nearest, hchunks, hvectors] at h
  by_cases hlimit : limit = 0
  · rw [if_pos hlimit] at h
    cases h
    exact isRead_nil
  · rw [if_neg hlimit] at h
    by_cases hlength : query.length ≠ handle.dimensions
    · rw [if_pos hlength] at h
      cases h
    · rw [if_neg hlength] at h
      by_cases hname : Database.fold handle.tableName = candidatesName
      · rw [if_pos hname] at h
        cases h
      · rw [if_neg hname] at h
        change (if query.length ≠ vectors.dimensions then _ else _) = _ at h
        by_cases hdimensions : query.length ≠ vectors.dimensions
        · rw [if_pos hdimensions] at h
          cases h
        · rw [if_neg hdimensions] at h
          cases h
          exact ⟨_, filterMap_row?_subset _, rfl⟩

theorem keyword_ok {keyword : String} {limit : Nat}
    (hchunks : handle.chunkTable database = chunks)
    (hvectors : handle.vectorTable database = .ok vectors)
    (h : handle.keyword keyword limit database = .ok found) : IsRead chunks vectors found := by
  unfold Handle.keyword at h
  dsimp only at h
  rw [hchunks, hvectors] at h
  split at h
  · cases h
    exact isRead_nil
  · split at h
    · cases h
    · cases h
      exact ⟨_, List.Subset.trans (takeLimit_subset _ _) (List.filter_subset_self _), rfl⟩

/-- Tables in step give every record back as it was taken. -/
theorem IsRead.isAsTaken {taken : List Record} (h : IsRead chunks vectors found)
    (hstep : InStep taken chunks vectors) : IsAsTaken taken chunks found := by
  obtain ⟨rows, hrows, rfl⟩ := h
  refine ⟨rows, hrows, ?_⟩
  rw [List.map_map]
  refine List.map_congr_left fun row hrow => ?_
  obtain ⟨place, hnumber, htaken⟩ := hstep.record row (hrows hrow)
  rw [hnumber, Nat.add_sub_cancel, htaken]
  rfl

end Handle

/-! ## All events -/

namespace Session

/-- Whatever is opened and stored in the database of a new table, its chunk table and its vector
table stay in step: vectors have the number of dimensions that the settings have for the handle
that stored them, and no number is given again after its row was removed. So a record that a handle
of the table finds is one that was taken, with the vector that it came with. -/
theorem inStep_performAll {options : StoreOptions} {start after : Database} {first : Handle}
    (hchunks : start.table? options.tableName = none)
    (hvectors : start.table? (Database.vectorName options.tableName) = none)
    (hopen : Handle.openTable options start = (after, .ok first)) (events : List Event) :
    let begun : Session := { database := after, handles := [first] }
    let session := begun.performAll events
    let taken := (begun.ledgerAfter options.tableName {} events).taken
    ∃ chunks vectors,
      session.database.table? options.tableName = some (.chunks chunks) ∧
      session.database.table? (Database.vectorName options.tableName) = some (.vectors vectors) ∧
      InStep taken chunks vectors ∧
      (options.dimensions ≤ VectorTable.maxDimensions →
        vectors.dimensions = options.dimensions) ∧
      (∀ slot ∈ vectors.slots, ∃ handle ∈ session.handles,
        Database.fold handle.tableName = Database.fold options.tableName ∧
        session.database.setting? handle.tableName "dimensions" =
          some (Text.decimal (Vector.decode slot.bytes).length)) ∧
      (∀ later, ∃ chunks',
        (session.performAll later).database.table? options.tableName = some (.chunks chunks') ∧
        ∀ row ∈ chunks'.rows, row.number ≤ chunks.lastNumber → row ∈ chunks.rows) ∧
      ∀ handle ∈ session.handles,
        Database.fold handle.tableName = Database.fold options.tableName →
        (∀ query limit found, handle.nearest query limit session.database = .ok found →
          Handle.IsAsTaken taken chunks found) ∧
        ∀ keyword limit found, handle.keyword keyword limit session.database = .ok found →
          Handle.IsAsTaken taken chunks found := by
  intro begun session taken
  obtain ⟨dimensions, hkeeps, hsupported⟩ := Keeps.of_openTable hchunks hvectors hopen events
  obtain ⟨chunks, vectors, hchunks, hvectors, hrecorded, rfl⟩ := hkeeps.tables
  have hstep := hrecorded.inStep
  refine ⟨chunks, vectors, hchunks, hvectors, hstep, hsupported, ?_, ?_, ?_⟩
  · intro slot hslot
    obtain ⟨pair, hpair, rfl⟩ :=
      List.mem_map.mp (hrecorded.represents.slots.mem_iff.mp hslot)
    obtain ⟨handle, hhandle, hname, hlength⟩ := hkeeps.taken pair hpair
    refine ⟨handle, hhandle, hname, ?_⟩
    rw [Numbered.slot, Vector.decode_encode, hlength]
    exact (hkeeps.handles handle hhandle).2.2
  · intro later
    obtain ⟨chunks', vectors', hchunks', -, hrecorded', -⟩ := (hkeeps.performAll later).tables
    refine ⟨chunks', hchunks', ?_⟩
    intro row hrow hgiven
    obtain ⟨pair, hpair, rfl⟩ := hrecorded'.mem_rows_iff.mp hrow
    rw [hrecorded.last] at hgiven
    -- An entry that came in later would have a number that was not given yet.
    have hold := (mem_kept_ledgerAfter hpair).resolve_right (Nat.not_lt.mpr hgiven)
    exact hrecorded.mem_rows_iff.mpr ⟨pair, hold, rfl⟩
  · intro handle _ hname
    have hown := Handle.chunkTable_of_fold hname hchunks
    have hvectorTable := Handle.vectorTable_of_fold hname hvectors
    constructor
    · intro query limit found hfound
      exact (Handle.nearest_ok hown hvectorTable hfound).isAsTaken hstep
    · intro keyword limit found hfound
      exact (Handle.keyword_ok hown hvectorTable hfound).isAsTaken hstep

/-- A record is replaced by one with the same identifier, which has the second number and its own
vector. -/
theorem inStep_performAll_of_replaced :
    let options : StoreOptions := { dimensions := 1 }
    let record : Record := { (default : Record) with id := "a", embedding := [default] }
    let other : Record := { record with embedding := [⟨1⟩] }
    let session := performAll
      { database := (Handle.openTable options {}).1, handles := [options.handle .append] }
      [.storing 0 record, .opening { options with writePolicy := .upsert }, .storing 1 other]
    ∃ chunks vectors,
      session.database.table? options.tableName = some (.chunks chunks) ∧
      InStep [record, other] chunks vectors ∧ chunks.rows.map Row.number = [2] := by
  intro options record other session
  obtain ⟨chunks, vectors, hchunks, -, hstep, -⟩ := inStep_performAll (by decide) (by decide)
    openTable_one
    [.storing 0 record, .opening { options with writePolicy := .upsert }, .storing 1 other]
  have htaken : (ledgerAfter options.tableName
      { database := (Handle.openTable options {}).1, handles := [options.handle .append] } {}
      [.storing 0 record, .opening { options with writePolicy := .upsert },
        .storing 1 other]).taken = [record, other] := by
    decide +kernel
  have hnumbers : (session.database.chunks? options.tableName).map
      (fun table => table.rows.map Row.number) = some [2] := by
    decide +kernel
  rw [Database.chunks?, hchunks] at hnumbers
  rw [← htaken]
  exact ⟨chunks, vectors, hchunks, hstep, Option.some.inj hnumbers⟩

end Session

end CodeSearch
