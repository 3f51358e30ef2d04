import CodeSearch.Proofs.Store.Extension
import CodeSearch.Proofs.Store.Session

/-!
# The ledger of a table

Tables are opened with all kinds of options and records are given to all kinds of handles, and some
of it fails. The ledger of one table is written from what the calls on it answer: which records it
took, one after the other, and which of them are left. The number of a row is the place of its
record among those that were taken, whatever happened to the others since.

- `Ledger`, `Session.ledgerAfter`: the ledger of a table, on paper.
- `Ledger.Recorded`: a chunk table and its vector table hold what a ledger says.
- `Session.Keeps`: the tables of a database do, under all events; `Session.Keeps.perform` is the
  step, `Session.Keeps.performAll` the run, and `Session.Keeps.of_openTable` starts it with a new
  table.
- `Session.Keeps.records_eq`, `Session.Keeps.keyword_eq`, `Session.Keeps.statistics_eq`: what a
  handle of the table reads.
-/

namespace CodeSearch

/-! ## Ledgers -/

/-- The records that a table took, in order, and those that are left of them. Each of these has the
number under which it was taken, counted from 1. -/
structure Ledger where
  taken : List Record := []
  kept : List Numbered := []
  deriving Repr

namespace Ledger

/-- The records that are left, in order. -/
def records (ledger : Ledger) : List Record := ledger.kept.map Prod.snd

/-- What is left when a record with the given identifier comes in. -/
def remaining (policy : WritePolicy) (id : String) (kept : List Numbered) : List Numbered :=
  match policy with
  | .append => kept
  | .upsert => kept.filter fun pair => pair.2.id ≠ id

/-- The ledger after a record was taken. -/
def put (policy : WritePolicy) (record : Record) (ledger : Ledger) : Ledger where
  taken := ledger.taken ++ [record]
  kept := remaining policy record.id ledger.kept ++ [(ledger.taken.length + 1, record)]

theorem mem_of_mem_remaining {policy : WritePolicy} {id : String} {kept : List Numbered}
    {pair : Numbered} (h : pair ∈ remaining policy id kept) : pair ∈ kept := by
  cases policy with
  | append => exact h
  | upsert => exact (List.mem_filter.mp h).1

theorem mem_kept_put {policy : WritePolicy} {record : Record} {ledger : Ledger} {pair : Numbered} :
    pair ∈ (ledger.put policy record).kept ↔
      pair ∈ remaining policy record.id ledger.kept ∨ pair = (ledger.taken.length + 1, record) := by
  rw [put, List.mem_append, List.mem_singleton]

/-- The records of a ledger are those of the plain list. -/
theorem records_put (policy : WritePolicy) (record : Record) (ledger : Ledger) :
    (ledger.put policy record).records = policy.put record ledger.records := by
  rw [records, put, List.map_append, List.map_singleton]
  cases policy with
  | append => rfl
  | upsert =>
    rw [remaining, WritePolicy.put, records, List.filter_map]
    rfl

/-- A chunk table and its vector table hold what a ledger says. -/
structure Recorded (ledger : Ledger) (chunks : ChunkTable) (vectors : VectorTable) : Prop where
  represents : Represents chunks vectors ledger.kept
  last : chunks.lastNumber = ledger.taken.length
  places : ∀ pair ∈ ledger.kept, 0 < pair.1 ∧ ledger.taken[pair.1 - 1]? = some pair.2
  lengths : ∀ pair ∈ ledger.kept, pair.2.embedding.length = vectors.dimensions

theorem recorded_empty (dimensions : Nat) : Recorded {} {} { dimensions } where
  represents := Represents.empty dimensions
  last := rfl
  places := fun _ h => absurd h List.not_mem_nil
  lengths := fun _ h => absurd h List.not_mem_nil

/-- Storing a record is entered under the next number. -/
theorem Recorded.put {ledger : Ledger} {chunks : ChunkTable} {vectors : VectorTable}
    (h : Recorded ledger chunks vectors) (policy : WritePolicy) {record : Record}
    (hlength : record.embedding.length = vectors.dimensions) :
    Recorded (ledger.put policy record) (Handle.storeIn policy record chunks vectors).1
      (Handle.storeIn policy record chunks vectors).2 where
  represents := by
    have hnext : ledger.taken.length + 1 = chunks.nextNumber := congrArg (· + 1) h.last.symm
    rw [Ledger.put, hnext]
    cases policy with
    | append => exact h.represents.add record
    | upsert => exact (h.represents.removeId record.id).add record
  last := by
    have hlast : (Handle.storeIn policy record chunks vectors).1.lastNumber =
        chunks.lastNumber + 1 := by
      cases policy <;> rfl
    rw [hlast, h.last, Ledger.put, List.length_append, List.length_singleton]
  places := by
    intro pair hpair
    rcases mem_kept_put.mp hpair with hpair | rfl
    · obtain ⟨hpositive, hplace⟩ := h.places pair (mem_of_mem_remaining hpair)
      refine ⟨hpositive, ?_⟩
      -- The places of the records that were taken before do not change.
      obtain ⟨hlt, -⟩ := List.getElem?_eq_some_iff.mp hplace
      rw [Ledger.put, List.getElem?_append_left hlt]
      exact hplace
    · refine ⟨Nat.succ_pos _, ?_⟩
      rw [Ledger.put, Nat.add_sub_cancel, List.getElem?_concat_length]
  lengths := by
    intro pair hpair
    rw [Handle.dimensions_storeIn]
    rcases mem_kept_put.mp hpair with hpair | rfl
    · exact h.lengths pair (mem_of_mem_remaining hpair)
    · exact hlength

end Ledger

/-! ## The ledger of a table -/

namespace Session

/-- The ledger of the table `name` after an event: a record is entered if a handle of the table
took it. -/
def enter (name : String) (session : Session) (ledger : Ledger) : Event → Ledger
  | .opening _ => ledger
  | .storing index record =>
    match session.handles[index]? with
    | some handle =>
      if Database.fold handle.tableName = Database.fold name ∧
          (handle.append record session.database).1.toBool then
        ledger.put handle.writePolicy record
      else ledger
    | none => ledger

/-- The ledger of the table `name` after one event after the other. -/
def ledgerAfter (name : String) (session : Session) (ledger : Ledger) : List Event → Ledger
  | [] => ledger
  | event :: events =>
    (session.perform event).ledgerAfter name (session.enter name ledger event) events

/-- The table `name` holds what the ledger says, and so does its vector table, which takes vectors
with the given number of dimensions. No handle is in the way, what the handles ask for is recorded
in the settings, and every record came in through one of them. -/
structure Keeps (name : String) (dimensions : Nat) (session : Session) (ledger : Ledger) :
    Prop where
  tables : ∃ chunks vectors,
    session.database.table? name = some (.chunks chunks) ∧
    session.database.table? (Database.vectorName name) = some (.vectors vectors) ∧
    ledger.Recorded chunks vectors ∧ vectors.dimensions = dimensions
  handles : ∀ handle ∈ session.handles,
    Database.fold handle.tableName ≠ Database.fold (Database.vectorName name) ∧
    handle.isReadOnly = false ∧
    session.database.setting? handle.tableName "dimensions" =
      some (Text.decimal handle.dimensions)
  taken : ∀ pair ∈ ledger.kept, ∃ handle ∈ session.handles,
    Database.fold handle.tableName = Database.fold name ∧
    pair.2.embedding.length = handle.dimensions

namespace Keeps

variable {name : String} {dimensions : Nat} {session : Session} {ledger : Ledger}

/-- A new table has an empty ledger. -/
theorem start {options : StoreOptions} {start after : Database} {handle : Handle}
    (hchunks : start.table? options.tableName = none)
    (hvectors : start.table? (Database.vectorName options.tableName) = none)
    (h : Handle.openTable options start = (after, .ok handle)) :
    ∃ dimensions,
      Keeps options.tableName dimensions { database := after, handles := [handle] } {} ∧
      (options.dimensions ≤ VectorTable.maxDimensions → dimensions = options.dimensions) := by
  obtain ⟨-, hempty, understood, hvectorTable, -, heq⟩ :=
    Database.ready_of_openTable hchunks hvectors h
  have hsetting := Database.setting?_of_openTable h
  obtain ⟨-, rfl, -⟩ := Database.openTable_ok h
  refine ⟨understood, ⟨?_, ?_, ?_⟩, heq⟩
  · exact ⟨{}, { dimensions := understood }, hempty, hvectorTable,
      Ledger.recorded_empty understood, rfl⟩
  · intro handle hhandle
    rw [List.mem_singleton] at hhandle
    subst hhandle
    exact ⟨(Database.fold_vectorName_ne _).symm, rfl, hsetting⟩
  · intro pair hpair
    cases hpair

/-- An opening leaves the table and its ledger as they are, whatever is opened. -/
theorem opening (h : Keeps name dimensions session ledger) (options : StoreOptions) :
    Keeps name dimensions (session.perform (.opening options)) ledger := by
  obtain ⟨chunks, vectors, hchunks, hvectors, hrecorded, hdimensions⟩ := h.tables
  have hextends := Database.openTable_extends options session.database
  rw [perform]
  cases hopen : Handle.openTable options session.database with
  | mk after outcome =>
    rw [hopen] at hextends
    have htables : ∃ chunks vectors,
        after.table? name = some (.chunks chunks) ∧
        after.table? (Database.vectorName name) = some (.vectors vectors) ∧
        ledger.Recorded chunks vectors ∧ vectors.dimensions = dimensions :=
      ⟨chunks, vectors, hextends.tables _ _ hchunks, hextends.tables _ _ hvectors, hrecorded,
        hdimensions⟩
    have hhandles : ∀ handle ∈ session.handles,
        Database.fold handle.tableName ≠ Database.fold (Database.vectorName name) ∧
        handle.isReadOnly = false ∧
        after.setting? handle.tableName "dimensions" = some (Text.decimal handle.dimensions) := by
      intro handle hhandle
      obtain ⟨hne, hwritable, hsetting⟩ := h.handles handle hhandle
      exact ⟨hne, hwritable, hextends.settings _ _ _ hsetting⟩
    cases outcome with
    | error error => exact ⟨htables, hhandles, h.taken⟩
    | ok handle =>
      refine ⟨htables, ?_, ?_⟩
      · intro other hother
        rcases List.mem_append.mp hother with hother | hother
        · exact hhandles other hother
        · -- The new handle is of a chunk table, so not of the vector table.
          rw [List.mem_singleton] at hother
          subst hother
          have hsetting := Database.setting?_of_openTable hopen
          have hkind := Database.not_vectors_of_openTable hopen vectors
          obtain ⟨-, rfl, -⟩ := Database.openTable_ok hopen
          refine ⟨fun heq => hkind ?_, rfl, hsetting⟩
          rw [Database.table?_congr heq]
          exact hvectors
      · intro pair hpair
        obtain ⟨other, hother, htaken⟩ := h.taken pair hpair
        exact ⟨other, List.mem_append_left _ hother, htaken⟩

/-- A record that is given to a handle is entered if the handle is one of the table and takes
it. -/
theorem storing (h : Keeps name dimensions session ledger) (index : Nat) (record : Record) :
    Keeps name dimensions (session.perform (.storing index record))
      (session.enter name ledger (.storing index record)) := by
  rw [Session.perform, enter]
  cases hlookup : session.handles[index]? with
  | none => exact h
  | some handle =>
    obtain ⟨chunks, vectors, hchunks, hvectors, hrecorded, rfl⟩ := h.tables
    obtain ⟨hkind, -⟩ := h.handles handle (List.mem_of_getElem? hlookup)
    dsimp only
    -- The handles ask for what they asked for before, and the settings did not change.
    have hhandles : ∀ other ∈ session.handles,
        Database.fold other.tableName ≠ Database.fold (Database.vectorName name) ∧
        other.isReadOnly = false ∧
        (handle.append record session.database).2.setting? other.tableName "dimensions" =
          some (Text.decimal other.dimensions) := by
      intro other hother
      rw [Database.setting?, handle.settings_append record session.database]
      exact h.handles other hother
    by_cases hname : Database.fold handle.tableName = Database.fold name
    · rcases handle.append_cases record session.database with
        ⟨error, happend⟩ | ⟨after, hinsert, happend⟩
      · rw [happend, if_neg fun hif => Bool.false_ne_true hif.2]
        exact h
      · rw [happend] at hhandles ⊢
        rw [if_pos ⟨hname, rfl⟩]
        obtain ⟨hlength, hfits, hchunks', hvectors'⟩ :=
          Handle.insert_own hchunks hvectors hname hinsert
        refine ⟨⟨_, _, hchunks', hvectors', hrecorded.put handle.writePolicy hfits,
          Handle.dimensions_storeIn _ _ _ _⟩, hhandles, ?_⟩
        intro pair hpair
        rcases Ledger.mem_kept_put.mp hpair with hpair | rfl
        · exact h.taken pair (Ledger.mem_of_mem_remaining hpair)
        · exact ⟨handle, List.mem_of_getElem? hlookup, hname, hlength⟩
    · rw [if_neg fun hif => hname hif.1]
      obtain ⟨hchunks', hvectors'⟩ :=
        Handle.append_other hchunks hvectors hname hkind record
      exact ⟨⟨chunks, vectors, hchunks', hvectors', hrecorded, rfl⟩, hhandles, h.taken⟩

/-- A record that is given to a handle of the table is entered if it is taken. -/
theorem append (h : Keeps name dimensions session ledger) {handle : Handle}
    (hhandle : handle ∈ session.handles)
    (hname : Database.fold handle.tableName = Database.fold name) (record : Record) :
    Keeps name dimensions
      { session with database := (handle.append record session.database).2 }
      (if (handle.append record session.database).1.toBool then
        ledger.put handle.writePolicy record else ledger) := by
  obtain ⟨index, hlookup⟩ := List.getElem?_of_mem hhandle
  have hstoring := h.storing index record
  rw [Session.perform, enter, hlookup] at hstoring
  simpa only [hname, true_and] using hstoring

/-- A handle of the table takes a record whose vector has the length that both ask for. -/
theorem append_ok (h : Keeps name dimensions session ledger) {handle : Handle}
    (hhandle : handle ∈ session.handles)
    (hname : Database.fold handle.tableName = Database.fold name)
    (hdimensions : handle.dimensions = dimensions) {record : Record}
    (hlength : record.embedding.length = dimensions) :
    (handle.append record session.database).1 = .ok () := by
  obtain ⟨chunks, vectors, -, hvectors, -, rfl⟩ := h.tables
  obtain ⟨-, hwritable, -⟩ := h.handles handle hhandle
  have hinsert := handle.insert_eq_ok hwritable (Handle.vectorTable_of_fold hname hvectors)
    (hlength.trans hdimensions.symm) hlength
  rw [Handle.append_of_insert_eq_ok hinsert]

/-- One event does to the table what it does to the ledger. -/
theorem perform (h : Keeps name dimensions session ledger) (event : Event) :
    Keeps name dimensions (session.perform event) (session.enter name ledger event) := by
  cases event with
  | opening options => exact h.opening options
  | storing index record => exact h.storing index record

/-- All events do to the table what they do to the ledger. -/
theorem performAll (h : Keeps name dimensions session ledger) (events : List Event) :
    Keeps name dimensions (session.performAll events)
      (session.ledgerAfter name ledger events) := by
  induction events generalizing session ledger with
  | nil => exact h
  | cons event events ih => exact ih (h.perform event)

/-- Whatever is opened and stored in the database of a new table, the table holds what its ledger
says. -/
theorem of_openTable {options : StoreOptions} {start after : Database} {first : Handle}
    (hchunks : start.table? options.tableName = none)
    (hvectors : start.table? (Database.vectorName options.tableName) = none)
    (hopen : Handle.openTable options start = (after, .ok first)) (events : List Event) :
    let begun : Session := { database := after, handles := [first] }
    ∃ dimensions,
      Keeps options.tableName dimensions (begun.performAll events)
        (begun.ledgerAfter options.tableName {} events) ∧
      (options.dimensions ≤ VectorTable.maxDimensions → dimensions = options.dimensions) := by
  intro begun
  obtain ⟨dimensions, hstart, hsupported⟩ := Keeps.start hchunks hvectors hopen
  exact ⟨dimensions, hstart.performAll events, hsupported⟩

/-! ## Reading through a handle -/

/-- A handle of the table sees the records that are left. -/
theorem records_eq (h : Keeps name dimensions session ledger) {handle : Handle}
    (hname : Database.fold handle.tableName = Database.fold name) :
    handle.records session.database = .ok ledger.records := by
  obtain ⟨chunks, vectors, hchunks, hvectors, hrecorded, -⟩ := h.tables
  exact hrecorded.represents.records_eq (Handle.chunkTable_of_fold hname hchunks)
    (Handle.vectorTable_of_fold hname hvectors)

theorem keyword_eq (h : Keeps name dimensions session ledger) {handle : Handle}
    (hname : Database.fold handle.tableName = Database.fold name) (keyword : String)
    (limit : Nat) :
    handle.keyword keyword limit session.database =
      searchRecords keyword limit ledger.records := by
  obtain ⟨chunks, vectors, hchunks, hvectors, hrecorded, -⟩ := h.tables
  exact hrecorded.represents.keyword_eq (Handle.chunkTable_of_fold hname hchunks)
    (Handle.vectorTable_of_fold hname hvectors) keyword limit

theorem statistics_eq (h : Keeps name dimensions session ledger) {handle : Handle}
    (hname : Database.fold handle.tableName = Database.fold name) :
    handle.statistics session.database = recordStatistics ledger.records := by
  obtain ⟨chunks, vectors, hchunks, hvectors, hrecorded, -⟩ := h.tables
  exact hrecorded.represents.statistics_eq (Handle.chunkTable_of_fold hname hchunks)

end Keeps

end Session

end CodeSearch
