import CodeSearch.Proofs.Store.Ledger
import CodeSearch.Proofs.Store.Reopening

/-!
# Openings that fail

An opening that fails loses no record and adds none. It leaves the whole database as it was, with
one exception: settings are recorded before the tables are made and stay when making them fails, so
the first opening under a spelling decides the settings for this spelling even if it fails.

- `Session.Orderly`: the database of a session is sound, and every name in it is settled.
  `Session.Orderly.perform` is the step, `Session.Orderly.performAll` the run.
- `Session.openTable_error`: all that an opening which fails leaves behind.
-/

namespace CodeSearch

namespace Database

/-- Opening keeps a database sound and all names settled, and everything is still there. -/
theorem openTable_orderly {database : Database} (hsound : Sound database)
    (hsettled : ∀ name, Settled name database) (options : StoreOptions) :
    Sound (Handle.openTable options database).1 ∧
      (∀ name, Settled name (Handle.openTable options database).1) ∧
      Precedes database (Handle.openTable options database).1 := by
  rcases (hsettled options.tableName).openTable_cases with ⟨hidle, -⟩ | ⟨-, hnew, hopen⟩
  · rw [hidle]
    exact ⟨hsound, hsettled, .refl database⟩
  · rw [hopen, Handle.afterTables]
    have hadditions := createTables_additions options.tableName options.dimensions
      (database.note options)
    have hsame := note_sameShape options database
    have hafter := (hsound.sameShape hsame).additions hadditions
    have hprecedes := (Precedes.of_sameShape hsame).trans (.of_additions hadditions)
    refine ⟨hafter, fun name => ?_, hprecedes⟩
    by_cases hname : name = options.tableName
    · subst hname
      exact Or.inr ⟨options, rfl, (recorded_note hnew).extends (.of_additions hadditions),
        createTables_again hafter (.refl _)⟩
    · refine (hsettled name).precedes hafter hprecedes fun key => ?_
      exact (hadditions.setting?_eq name key).trans (setting?_note_of_ne hname key)

end Database

/-- Opening leaves the same chunks under every name. -/
theorem Database.Settled.chunks?_openTable {options : StoreOptions} {database : Database}
    (h : Settled options.tableName database) (name : String) :
    ((Handle.openTable options database).1.chunks? name).getD {} =
      (database.chunks? name).getD {} := by
  rcases h.openTable_cases with ⟨hidle, -⟩ | ⟨-, -, hopen⟩
  · rw [hidle]
  · rw [hopen]
    exact (createTables_additions _ _ (database.note options)).chunks?_getD_eq name

/-- A table was there before it is opened, or it is new and holds nothing. -/
theorem Database.Settled.table?_openTable {options : StoreOptions} {database : Database}
    (h : Settled options.tableName database) {name : String} {table : Table}
    (htable : (Handle.openTable options database).1.table? name = some table) :
    database.table? name = some table ∨ table.emptied = table := by
  rcases h.openTable_cases with ⟨hidle, -⟩ | ⟨-, -, hopen⟩
  · rw [hidle] at htable
    exact Or.inl htable
  · rw [hopen] at htable
    exact (createTables_additions _ _ (database.note options)).table?_cases htable

/-- Where making the tables fails, the database is at fault. -/
theorem Handle.fault_of_afterTables {options : StoreOptions} {change : Database.Change}
    {after : Database} {error : StoreError}
    (h : Handle.afterTables options change = (after, .error error)) :
    ∃ fault, error = .database fault := by
  obtain ⟨database, fault⟩ := change
  cases fault with
  | some fault =>
    cases h
    exact ⟨fault, rfl⟩
  | none => cases h

namespace Session

/-- The database of the session is sound, every name in it is settled, and its handles are of chunk
tables. -/
structure Orderly (session : Session) : Prop where
  sound : session.database.Sound
  settled : ∀ name, Database.Settled name session.database
  handles : ∀ handle ∈ session.handles, session.database.shape? handle.tableName =
    some (.chunks {})

namespace Orderly

variable {session : Session}

theorem empty : Orderly { database := {}, handles := [] } where
  sound := .empty
  settled := Database.settled_empty
  handles := fun _ h => absurd h List.not_mem_nil

theorem opening (h : Orderly session) (options : StoreOptions) :
    Orderly (session.perform (.opening options)) := by
  obtain ⟨hsound, hsettled, hprecedes⟩ :=
    Database.openTable_orderly h.sound h.settled options
  have hhandles : ∀ handle ∈ session.handles,
      (Handle.openTable options session.database).1.shape? handle.tableName =
        some (.chunks {}) :=
    fun handle hhandle => hprecedes.tables _ _ (h.handles handle hhandle)
  rw [perform]
  cases hopen : Handle.openTable options session.database with
  | mk after outcome =>
    rw [hopen] at hsound hsettled hhandles
    cases outcome with
    | error error => exact ⟨hsound, hsettled, hhandles⟩
    | ok handle =>
      refine ⟨hsound, hsettled, fun other hother => ?_⟩
      rcases List.mem_append.mp hother with hother | hother
      · exact hhandles other hother
      · obtain rfl := List.mem_singleton.mp hother
        obtain ⟨-, rfl, _, _, -, -, htables⟩ := Database.openTable_ok hopen
        exact (Database.Made.of_createTables hsound htables).chunks

theorem storing (h : Orderly session) (index : Nat) (record : Record) :
    Orderly (session.perform (.storing index record)) := by
  rw [perform]
  cases hlookup : session.handles[index]? with
  | none => exact h
  | some handle =>
    have hchunks := h.handles handle (List.mem_of_getElem? hlookup)
    have hsame := handle.append_sameShape (Database.shape?_eq_chunks.mp hchunks) record
    have hsound := h.sound.sameShape hsame
    refine ⟨hsound, fun name => ?_, fun other hother => ?_⟩
    · refine (h.settled name).precedes hsound (.of_sameShape hsame) fun key => ?_
      rw [Database.setting?, handle.settings_append record session.database]
      rfl
    · exact (hsame.tables _).trans (h.handles other hother)

theorem perform (h : Orderly session) (event : Event) : Orderly (session.perform event) := by
  cases event with
  | opening options => exact h.opening options
  | storing index record => exact h.storing index record

theorem performAll (h : Orderly session) (events : List Event) :
    Orderly (session.performAll events) := by
  induction events generalizing session with
  | nil => exact h
  | cons event events ih => exact ih (h.perform event)

end Orderly

/-! ## What a failed opening leaves behind -/

/-- An opening that fails changes no record. It changes nothing at all if the database is not at
fault, or if settings were recorded under this spelling before. Otherwise the settings that were
asked for are recorded now, and no opening under this spelling can have others from now on. -/
theorem openTable_error (events : List Event) {options : StoreOptions} {after : Database}
    {error : StoreError} :
    let database := (performAll { database := {}, handles := [] } events).database
    let changesNothing := (∀ fault, error ≠ .database fault) ∨
      ¬ Database.Unrecorded options.tableName database
    Handle.openTable options database = (after, .error error) →
      (∀ handle : Handle, handle.chunkTable after = handle.chunkTable database ∧
        ∀ vectors, handle.vectorTable database = .ok vectors →
          handle.vectorTable after = .ok vectors) ∧
      (changesNothing → after = database) ∧
      (¬ changesNothing → after.settings = database.settings ++ options.settings ∧
        Handle.Guards options after) := by
  intro database changesNothing h
  have horderly : Orderly _ := Orderly.empty.performAll events
  have hextends := Database.openTable_extends options database
  have hcases := (horderly.settled options.tableName).openTable_cases
  rw [h] at hextends hcases
  refine ⟨fun handle => ⟨?_, fun vectors hvectors => ?_⟩, fun hidle => ?_, fun hidle => ?_⟩
  · have hsame := (horderly.settled options.tableName).chunks?_openTable handle.tableName
    rwa [h] at hsame
  · exact Handle.vectorTable_of_fold rfl
      (hextends.tables _ _ (Handle.vectorTable_ok hvectors))
  · rcases hcases with ⟨hsame, -⟩ | ⟨-, hnew, hopen⟩
    · exact hsame
    · -- Only the tables can be in the way of the first opening under a spelling.
      obtain ⟨fault, hfault⟩ := Handle.fault_of_afterTables hopen.symm
      exact absurd hidle (not_or.mpr ⟨fun h => h fault hfault, not_not.mpr hnew⟩)
  · obtain ⟨hfault, hnew⟩ := not_or.mp hidle
    obtain ⟨fault, hfault⟩ := not_forall_not.mp hfault
    rcases hcases with ⟨-, hrecorded⟩ | ⟨hname, hnew, hopen⟩
    · exact absurd (hrecorded ⟨fault, congrArg Except.error hfault⟩) hnew
    · obtain rfl : after = _ := congrArg Prod.fst hopen
      have hadditions := Database.createTables_additions options.tableName options.dimensions
        (database.note options)
      have hrecorded := (Database.recorded_note hnew).extends (.of_additions hadditions)
      exact ⟨hadditions.settings_eq, Handle.guards_of_recorded hname hrecorded⟩

/-- Vectors of 9000 numbers are too many, and no other number will do after it was tried. -/
theorem openTable_error_of_dimensions :
    let options : StoreOptions := { dimensions := 9000 }
    let after := (Handle.openTable options {}).1
    Handle.openTable options {} = (after, .error (.database (.badDimensions 9000))) ∧
      after.settings = options.settings ∧ Handle.Guards options after := by
  intro options after
  have hopen : Handle.openTable options {} =
      (after, .error (.database (.badDimensions 9000))) :=
    Prod.ext rfl (by decide +kernel)
  refine ⟨hopen, ((openTable_error [] hopen).2.2 ?_)⟩
  rw [not_or, not_not]
  exact ⟨fun h => h _ rfl, rfl, rfl⟩

/-- An opening that succeeds on an empty database fails after one that failed. -/
theorem openTable_after_refusal :
    let refused : StoreOptions := { dimensions := 9000 }
    let options : StoreOptions := { dimensions := 4 }
    let after := (Handle.openTable refused {}).1
    (Handle.openTable refused {}).2 = .error (.database (.badDimensions 9000)) ∧
      after.settings ≠ ({} : Database).settings ∧
      (Handle.openTable options {}).2 = .ok (options.handle .append) ∧
      (Handle.openTable options after).2 =
        .error (.settingsMismatch "code_chunks" "dimensions" "9000" "4") := by
  decide +kernel

end Session

end CodeSearch
