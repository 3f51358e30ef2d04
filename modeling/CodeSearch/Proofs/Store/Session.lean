import CodeSearch.Proofs.Store.Contents

/-!
# Sessions

In a session tables are opened and records are stored through their handles. If one table is opened
again and again, each time with a write policy of its own, then all of it together acts on a plain
list of records.

- `Event`, `Session.performAll`: what is done with a database.
- `Action`, `Session.run`: a session on one table, whose events are actions.
- `Listing.run`: the same actions on a list of records.
- `Session.Refines`: the table holds the list; `Session.Refines.step` and `Session.Refines.run` are
  the simulation.
- `Session.run_refines_listing`: how a session answers, in terms of the list.
-/

namespace CodeSearch

/-! ## Events -/

/-- What is done with a database. -/
inductive Event where
  /-- A table is opened. -/
  | opening (options : StoreOptions)
  /-- A record is given to one of the handles, counted from the oldest one. -/
  | storing (index : Nat) (record : Record)
  deriving Repr

/-- A database and the handles that were opened so far, oldest first. -/
structure Session where
  database : Database
  handles : List Handle
  deriving Repr

namespace Session

/-- The session after an event. An opening that fails gives no handle, and a handle that there is
not stores nothing. -/
def perform (session : Session) : Event → Session
  | .opening options =>
    match Handle.openTable options session.database with
    | (database, .ok handle) => { database, handles := session.handles ++ [handle] }
    | (database, .error _) => { session with database }
  | .storing index record =>
    match session.handles[index]? with
    | some handle => { session with database := (handle.append record session.database).2 }
    | none => session

/-- The session after one event after the other. -/
def performAll (session : Session) (events : List Event) : Session :=
  events.foldl perform session

end Session

/-! ## Actions on one table -/

/-- What is done with an open table. -/
inductive Action where
  /-- It is opened once more. -/
  | reopen (policy : WritePolicy)
  /-- A record is stored through one of the handles, counted from the oldest one. -/
  | store (index : Nat) (record : Record)
  deriving Repr

/-- The event that an action is for the table with the given options. -/
def Action.event (options : StoreOptions) : Action → Event
  | .reopen policy => .opening { options with writePolicy := policy }
  | .store index record => .storing index record

/-- The session after one action after the other. -/
def Session.run (options : StoreOptions) (session : Session) (actions : List Action) : Session :=
  session.performAll (actions.map (Action.event options))

/-- A list of records and the write policies under which it is open, oldest first. -/
structure Listing where
  records : List Record := []
  policies : List WritePolicy
  deriving Repr

namespace Listing

/-- Does one action on the list. A record that does not fit changes nothing. -/
def step (options : StoreOptions) (listing : Listing) : Action → Listing
  | .reopen policy => { listing with policies := listing.policies ++ [policy] }
  | .store index record =>
    match listing.policies[index]? with
    | some policy =>
      if options.Fits record then { listing with records := policy.put record listing.records }
      else listing
    | none => listing

/-- Does one action after the other on the list. -/
def run (options : StoreOptions) (listing : Listing) (actions : List Action) : Listing :=
  actions.foldl (step options) listing

end Listing

/-! ## The simulation -/

/-- The table holds the list of records, and there is a handle for every policy. -/
structure Session.Refines (options : StoreOptions) (session : Session) (listing : Listing) :
    Prop where
  holds : session.database.Holds options listing.records
  handles : session.handles = listing.policies.map options.handle

namespace Session.Refines

variable {options : StoreOptions} {session : Session} {listing : Listing}

/-- A new table is an empty list. -/
theorem start {start after : Database} {handle : Handle}
    (hchunks : start.table? options.tableName = none)
    (hvectors : start.table? (Database.vectorName options.tableName) = none)
    (h : Handle.openTable options start = (after, .ok handle)) :
    Refines options { database := after, handles := [handle] }
      { policies := [options.writePolicy] } := by
  obtain ⟨hholds, rfl⟩ := Database.holds_of_openTable hchunks hvectors h
  exact ⟨hholds, rfl⟩

/-- One action does to the table what it does to the list. -/
theorem step (h : Refines options session listing) (action : Action) :
    Refines options (session.perform (action.event options)) (listing.step options action) := by
  cases action with
  | reopen policy =>
    -- Only the handles change.
    rw [Action.event, perform, h.holds.ready.openTable_eq policy]
    refine ⟨h.holds, ?_⟩
    show session.handles ++ [options.handle policy] = (listing.policies ++ [policy]).map _
    rw [h.handles, List.map_append, List.map_singleton]
  | store index record =>
    -- The handle and its policy stand at the same place.
    have hlookup : session.handles[index]? = listing.policies[index]?.map options.handle := by
      rw [h.handles, List.getElem?_map]
    rw [Action.event, perform, Listing.step, hlookup]
    cases hpolicy : listing.policies[index]? with
    | none => exact h
    | some policy =>
      show Refines options
        { session with database := ((options.handle policy).append record session.database).2 }
        (if options.Fits record then { listing with records := policy.put record listing.records }
          else listing)
      by_cases hfits : options.Fits record
      · obtain ⟨after, happend, hafter⟩ := h.holds.append_of_fits policy hfits
        rw [if_pos hfits, happend]
        exact ⟨hafter, h.handles⟩
      · obtain ⟨error, happend⟩ := h.holds.append_of_not_fits policy hfits
        rw [if_neg hfits, happend]
        exact h

/-- All actions of a session do to the table what they do to the list. -/
theorem run (h : Refines options session listing) (actions : List Action) :
    Refines options (session.run options actions) (listing.run options actions) := by
  induction actions generalizing session listing with
  | nil => exact h
  | cons action actions ih => exact ih (h.step action)

end Session.Refines

/-! ## How a session answers -/

/-- The handle answers from a list of records: it counts identifiers, gives the list itself for the
empty keyword, and counts records, types and files. -/
structure Handle.Answers (handle : Handle) (database : Database) (records : List Record) :
    Prop where
  countId : ∀ id, handle.countId id database = records.countP fun record => record.id == id
  keyword : ∀ limit, records.length ≤ limit → handle.keyword "" limit database = .ok records
  totalChunks : (handle.statistics database).totalChunks = records.length
  chunkTypes : IsTally (records.map fun record => record.chunkType)
    (handle.statistics database).chunkTypes
  files : IsTally (records.map fun record => record.fileName) (handle.statistics database).files

theorem Database.Holds.answers {options : StoreOptions} {records : List Record}
    {database : Database} (h : database.Holds options records) (policy : WritePolicy) :
    (options.handle policy).Answers database records where
  countId := h.countId_eq policy
  keyword := fun limit hlimit => (h.keyword_eq policy "" limit).trans (searchRecords_empty hlimit)
  totalChunks := by
    rw [h.statistics_eq]
    rfl
  chunkTypes := by
    rw [h.statistics_eq]
    exact isTally_tallyValues _
  files := by
    rw [h.statistics_eq]
    exact isTally_tallyValues _

namespace Session

/-- After any actions on a new table, opening it again changes nothing, and every handle stores the
records that fit, refuses the others without a trace, and answers from the list of records. -/
theorem run_refines_listing {options : StoreOptions} {start after : Database} {handle : Handle}
    (hchunks : start.table? options.tableName = none)
    (hvectors : start.table? (Database.vectorName options.tableName) = none)
    (hopen : Handle.openTable options start = (after, .ok handle)) (actions : List Action) :
    let session := Session.run options { database := after, handles := [handle] } actions
    let listing := Listing.run options { policies := [options.writePolicy] } actions
    (∀ policy, Handle.openTable { options with writePolicy := policy } session.database =
      (session.database, .ok (options.handle policy))) ∧
    session.handles = listing.policies.map options.handle ∧
    ∀ handle ∈ session.handles,
      (∀ record, options.Fits record → ∃ stored,
        handle.append record session.database = (.ok (), stored) ∧
        handle.Answers stored (handle.writePolicy.put record listing.records)) ∧
      (∀ record, ¬ options.Fits record → ∃ error,
        handle.append record session.database = (.error error, session.database)) ∧
      handle.Answers session.database listing.records := by
  intro session listing
  have hrefines : Refines options session listing :=
    (Refines.start hchunks hvectors hopen).run actions
  refine ⟨hrefines.holds.ready.openTable_eq, hrefines.handles, ?_⟩
  intro handle hhandle
  rw [hrefines.handles, List.mem_map] at hhandle
  obtain ⟨policy, -, rfl⟩ := hhandle
  refine ⟨?_, ?_, ?_⟩
  · intro record hfits
    obtain ⟨stored, happend, hstored⟩ := hrefines.holds.append_of_fits policy hfits
    exact ⟨stored, happend, hstored.answers policy⟩
  · intro record hfits
    exact hrefines.holds.append_of_not_fits policy hfits
  · exact hrefines.holds.answers policy

/-- The first opening of a table with vectors of one number. -/
theorem openTable_one :
    Handle.openTable { dimensions := 1 } {} =
      ((Handle.openTable { dimensions := 1 } {}).1,
        .ok (StoreOptions.handle { dimensions := 1 } .append)) := by
  refine Prod.ext rfl ?_
  decide +kernel

/-- Three records are stored in a table with vectors of one number: one when it is new, one through
a handle that replaces it, and one that does not fit. -/
theorem run_refines_listing_of_three :
    let options : StoreOptions := { dimensions := 1 }
    let record : Record := { (default : Record) with id := "a", embedding := [default] }
    let session := Session.run options
      { database := (Handle.openTable options {}).1, handles := [options.handle .append] }
      [.store 0 record, .reopen .upsert, .store 1 { record with code := "b" },
        .store 0 { record with embedding := [] }]
    (options.handle .upsert).Answers session.database [{ record with code := "b" }] := by
  intro options record session
  obtain ⟨-, hhandles, hanswers⟩ := run_refines_listing (by decide) (by decide) openTable_one
    [.store 0 record, .reopen .upsert, .store 1 { record with code := "b" },
      .store 0 { record with embedding := [] }]
  refine (hanswers _ ?_).2.2
  rw [hhandles]
  exact List.mem_map_of_mem (by decide)

end Session

end CodeSearch
