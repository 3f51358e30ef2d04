import CodeSearch.Proofs.Store.FailedOpenings
import CodeSearch.Proofs.Store.Matching

/-!
# Where records come from

A database does not tell which handle stored a record, or what that handle was opened with. A
history remembers both. It shows what the settings are good for: they keep the records of a table
alike as long as everybody spells its name alike. The number of dimensions is the same for all
records of a table in any case, because the vector table sees to it, but under every other spelling
of its name a table can be opened with a text policy of its own.

- `Handle.isTableName_congr`: spellings of a table name are table names.
- `History`, `History.after`: a session, with what its handles were opened with and what they
  stored.
- `History.Consistent`: what was opened is complete, and its settings are recorded.
  `History.Consistent.next` is the step, `History.Consistent.after` the run.
- `History.Traced`, `History.Unused`: a table holds what was stored in it, or nothing was;
  `History.traced_or_unused` is one of the two for every table, along all events.
- `History.alike_of_spelling`: what the handles that stored the records of a table have in common.
-/

namespace CodeSearch

/-! ## Spellings of table names -/

namespace Handle

theorem isTableName_fold (name : String) :
    isTableName (Database.fold name) = isTableName name := by
  -- A capital letter and its small letter are both letters.
  have hletter : ∀ c : Char, c.toLower = c ∨ c.isAlpha = true ∧ c.toLower.isAlpha = true := by
    intro c
    rcases Pattern.toLower_eq_or c with h | ⟨hupper, hlower⟩
    · exact Or.inl h
    · refine Or.inr ⟨?_, ?_⟩
      · show (c.isUpper || c.isLower) = true
        rw [hupper, Bool.true_or]
      · show (c.toLower.isUpper || c.toLower.isLower) = true
        rw [hlower, Bool.or_true]
  have hfirst : ∀ c : Char,
      (c.toLower.isAlpha || c.toLower == '_') = (c.isAlpha || c == '_') := by
    intro c
    rcases hletter c with h | ⟨halpha, hlower⟩
    · rw [h]
    · rw [halpha, hlower, Bool.true_or, Bool.true_or]
  have hrest : ∀ c : Char,
      (c.toLower.isAlphanum || c.toLower == '_') = (c.isAlphanum || c == '_') := by
    intro c
    rcases hletter c with h | ⟨halpha, hlower⟩
    · rw [h]
    · show ((c.toLower.isAlpha || c.toLower.isDigit) || c.toLower == '_') =
        ((c.isAlpha || c.isDigit) || c == '_')
      rw [halpha, hlower]
      simp
  rw [isTableName, isTableName, Database.fold, String.toList_ofList]
  cases name.toList with
  | nil => rfl
  | cons first rest =>
    simp only [List.map_cons, List.all_map, Function.comp_def, hfirst, hrest]

/-- A spelling of a table name is a table name. -/
theorem isTableName_congr {name other : String} (h : Database.fold name = Database.fold other) :
    isTableName name = isTableName other := by
  rw [← isTableName_fold, h, isTableName_fold]

end Handle

/-! ## Histories -/

/-- A session, and what its database does not tell. -/
structure History where
  session : Session := { database := {}, handles := [] }
  /-- What the handles were opened with. -/
  opened : List StoreOptions := []
  /-- The records that were stored, each with what its handle was opened with. -/
  stored : List (StoreOptions × Record) := []
  deriving Repr

namespace History

/-- The history after an event. -/
def next (history : History) (event : Event) : History where
  session := history.session.perform event
  opened :=
    match event with
    | .opening options =>
      if (Handle.openTable options history.session.database).2.toBool then
        history.opened ++ [options]
      else history.opened
    | .storing _ _ => history.opened
  stored :=
    match event with
    | .opening _ => history.stored
    | .storing index record =>
      match history.opened[index]? with
      | some options =>
        if ((options.handle options.writePolicy).append record
            history.session.database).1.toBool then
          history.stored ++ [(options, record)]
        else history.stored
      | none => history.stored

/-- The history of one event after the other, from an empty database on. -/
def after (events : List Event) : History := events.foldl next {}

/-- What was stored in a table, however its name was spelled. -/
def storedIn (name : String) (history : History) : List (StoreOptions × Record) :=
  history.stored.filter fun pair => Database.fold pair.1.tableName = Database.fold name

theorem session_after (events : List Event) :
    (after events).session = Session.performAll { database := {}, handles := [] } events :=
  (List.foldl_hom History.session fun _ _ => rfl).symm

theorem next_opening (history : History) (options : StoreOptions) :
    (∃ database, Handle.openTable options history.session.database =
        (database, .ok (options.handle options.writePolicy)) ∧
      history.next (.opening options) =
        { history with
          session :=
            { database, handles := history.session.handles ++ [options.handle options.writePolicy] }
          opened := history.opened ++ [options] }) ∨
    ∃ database error, Handle.openTable options history.session.database =
        (database, .error error) ∧
      history.next (.opening options) =
        { history with session := { history.session with database } } := by
  rw [next, Session.perform]
  dsimp only
  cases hopen : Handle.openTable options history.session.database with
  | mk database outcome =>
    cases outcome with
    | error error => exact Or.inr ⟨database, error, rfl, rfl⟩
    | ok handle =>
      obtain ⟨-, rfl, -⟩ := Database.openTable_ok hopen
      exact Or.inl ⟨database, rfl, rfl⟩

/-! ## What is true of a history -/

/-- What a history says of the handles and their tables is true. -/
structure Consistent (history : History) : Prop where
  orderly : history.session.Orderly
  handles : history.session.handles =
    history.opened.map fun options => options.handle options.writePolicy
  opened : ∀ options ∈ history.opened, Handle.isTableName options.tableName = true ∧
    Database.Made options.tableName history.session.database ∧
    Database.Recorded options history.session.database
  stored : ∀ pair ∈ history.stored, pair.1 ∈ history.opened

namespace Consistent

variable {history : History}

theorem empty : Consistent {} where
  orderly := .empty
  handles := rfl
  opened := fun _ h => absurd h List.not_mem_nil
  stored := fun _ h => absurd h List.not_mem_nil

/-- A record is given to a handle in vain, or to one that takes it. -/
theorem next_storing (h : Consistent history) (index : Nat) (record : Record) :
    history.next (.storing index record) = history ∨
    ∃ options database, options ∈ history.opened ∧
      history.session.handles[index]? = some (options.handle options.writePolicy) ∧
      (options.handle options.writePolicy).insert record history.session.database =
        .ok database ∧
      history.next (.storing index record) =
        { history with
          session := { history.session with database }
          stored := history.stored ++ [(options, record)] } := by
  have hlookup : history.session.handles[index]? =
      history.opened[index]?.map fun options => options.handle options.writePolicy := by
    rw [h.handles, List.getElem?_map]
  rw [next, Session.perform, hlookup]
  dsimp only
  cases hoptions : history.opened[index]? with
  | none => exact Or.inl rfl
  | some options =>
    rw [Option.map_some]
    dsimp only
    rcases (options.handle options.writePolicy).append_cases record history.session.database with
      ⟨error, happend⟩ | ⟨database, hinsert, happend⟩
    · rw [happend]
      exact Or.inl rfl
    · rw [happend]
      exact Or.inr ⟨options, database, List.mem_of_getElem? hoptions, rfl, hinsert, rfl⟩

theorem opening (h : Consistent history) (options : StoreOptions) :
    Consistent (history.next (.opening options)) := by
  have horderly : (history.next (.opening options)).session.Orderly := h.orderly.opening options
  obtain ⟨hsound, -, hprecedes⟩ :=
    Database.openTable_orderly h.orderly.sound h.orderly.settled options
  have hextends := Database.openTable_extends options history.session.database
  -- What was opened before is still complete, and its settings are still recorded.
  have hopened : ∀ made ∈ history.opened, Handle.isTableName made.tableName = true ∧
      Database.Made made.tableName (Handle.openTable options history.session.database).1 ∧
      Database.Recorded made (Handle.openTable options history.session.database).1 := by
    intro made hmade
    obtain ⟨hname, hcomplete, hrecorded⟩ := h.opened made hmade
    exact ⟨hname, hcomplete.precedes hprecedes, hrecorded.extends hextends⟩
  rcases history.next_opening options with
    ⟨database, hopen, hnext⟩ | ⟨database, error, hopen, hnext⟩
  · rw [hnext] at horderly ⊢
    rw [hopen] at hsound hopened
    refine ⟨horderly, ?_, fun made hmade => ?_, fun pair hpair => ?_⟩
    · dsimp only
      rw [h.handles, List.map_append]
      rfl
    · rcases List.mem_append.mp hmade with hmade | hmade
      · exact hopened made hmade
      · obtain rfl := List.mem_singleton.mp hmade
        obtain ⟨hname, -, _, _, -, -, htables⟩ := Database.openTable_ok hopen
        obtain ⟨hdimensions, hembed⟩ := Database.settings_of_openTable hopen
        exact ⟨hname, .of_createTables hsound htables, hdimensions, hembed⟩
    · exact List.mem_append_left _ (h.stored pair hpair)
  · rw [hnext] at horderly ⊢
    rw [hopen] at hopened
    exact ⟨horderly, h.handles, hopened, h.stored⟩

theorem storing (h : Consistent history) (index : Nat) (record : Record) :
    Consistent (history.next (.storing index record)) := by
  have horderly : (history.next (.storing index record)).session.Orderly :=
    h.orderly.storing index record
  rcases h.next_storing index record with hnext | ⟨options, database, hoptions, -, hinsert, hnext⟩
  · rw [hnext]
    exact h
  · rw [hnext] at horderly ⊢
    obtain ⟨-, hcomplete, -⟩ := h.opened options hoptions
    have hsame := (options.handle options.writePolicy).append_sameShape
      (Database.shape?_eq_chunks.mp hcomplete.chunks) record
    have hsettings := (options.handle options.writePolicy).settings_append record
      history.session.database
    rw [Handle.append_of_insert_eq_ok hinsert] at hsame hsettings
    refine ⟨horderly, h.handles, fun made hmade => ?_, fun pair hpair => ?_⟩
    · obtain ⟨hname, hcomplete, hrecorded⟩ := h.opened made hmade
      refine ⟨hname, hcomplete.precedes (.of_sameShape hsame), ?_, ?_⟩
      · rw [Database.setting?, hsettings]
        exact hrecorded.dimensions
      · rw [Database.setting?, hsettings]
        exact hrecorded.embedText
    · rcases List.mem_append.mp hpair with hpair | hpair
      · exact h.stored pair hpair
      · obtain rfl := List.mem_singleton.mp hpair
        exact hoptions

theorem next (h : Consistent history) (event : Event) : Consistent (history.next event) := by
  cases event with
  | opening options => exact h.opening options
  | storing index record => exact h.storing index record

theorem after (events : List Event) : Consistent (History.after events) := by
  refine List.foldlRecOn (motive := Consistent) events History.next empty ?_
  exact fun history h event _ => h.next event

end Consistent

/-! ## What is stored in a table -/

section

variable {history : History} {name : String} {dimensions : Nat}

/-- The table holds what was stored in it, as far as it is left, and the handles of all of it asked
for the number of dimensions of its vectors. -/
structure Traced (name : String) (dimensions : Nat) (history : History) : Prop where
  ledger : ∃ ledger, history.session.Keeps name dimensions ledger ∧
    ledger.taken = (history.storedIn name).map Prod.snd
  dimensions : ∀ pair ∈ history.storedIn name, pair.1.dimensions = dimensions

/-- The table has no vectors, and so nothing was stored in it. -/
structure Unused (name : String) (history : History) : Prop where
  vectors : ∀ content, history.session.database.table? (Database.vectorName name) ≠
    some (.vectors content)
  chunks : (history.session.database.chunks? name).getD {} = {}
  stored : history.storedIn name = []

theorem storedIn_of_append {later : History} {pair : StoreOptions × Record}
    (h : later.stored = history.stored ++ [pair]) (name : String) :
    later.storedIn name = history.storedIn name ++
      if Database.fold pair.1.tableName = Database.fold name then [pair] else [] := by
  rw [storedIn, storedIn, h, List.filter_append, List.filter_singleton]
  simp

theorem Traced.opening (h : Traced name dimensions history) (options : StoreOptions) :
    Traced name dimensions (history.next (.opening options)) := by
  obtain ⟨ledger, hkeeps, htaken⟩ := h.ledger
  exact ⟨⟨ledger, hkeeps.opening options, htaken⟩, h.dimensions⟩

theorem Traced.storing (h : Traced name dimensions history) (hconsistent : Consistent history)
    (index : Nat) (record : Record) :
    Traced name dimensions (history.next (.storing index record)) := by
  obtain ⟨ledger, hkeeps, htaken⟩ := h.ledger
  have hkeeps' := hkeeps.storing index record
  rcases hconsistent.next_storing index record with
    hnext | ⟨options, database, -, hlookup, hinsert, hnext⟩
  · rw [hnext]
    exact h
  · have hstored := storedIn_of_append (congrArg History.stored hnext) name
    rw [Session.enter, hlookup] at hkeeps'
    dsimp only at hkeeps'
    rw [Handle.append_of_insert_eq_ok hinsert] at hkeeps'
    by_cases hname : Database.fold options.tableName = Database.fold name
    · rw [if_pos ⟨hname, rfl⟩] at hkeeps'
      rw [if_pos hname] at hstored
      obtain ⟨chunks, vectors, hchunks, hvectors, -, rfl⟩ := hkeeps.tables
      have hown : Database.fold (options.handle options.writePolicy).tableName =
          Database.fold name := hname
      obtain ⟨hlength, hfits, -⟩ := Handle.insert_own hchunks hvectors hown hinsert
      constructor
      · refine ⟨_, hkeeps', ?_⟩
        rw [hstored, List.map_append, ← htaken]
        rfl
      · intro pair hpair
        rw [hstored] at hpair
        rcases List.mem_append.mp hpair with hpair | hpair
        · exact h.dimensions pair hpair
        · obtain rfl := List.mem_singleton.mp hpair
          exact hlength.symm.trans hfits
    · rw [if_neg fun hif => hname hif.1] at hkeeps'
      rw [if_neg hname, List.append_nil] at hstored
      exact ⟨⟨ledger, hkeeps', hstored ▸ htaken⟩, hstored ▸ h.dimensions⟩

/-- A table is empty when it gets its vectors. -/
theorem Unused.opening (h : Unused name history) (hconsistent : Consistent history)
    (options : StoreOptions) :
    (∃ dimensions, Traced name dimensions (history.next (.opening options))) ∨
      Unused name (history.next (.opening options)) := by
  have hafter := hconsistent.opening options
  have hdatabase : (history.next (.opening options)).session.database =
      (Handle.openTable options history.session.database).1 := by
    rcases history.next_opening options with ⟨database, hopen, hnext⟩ | ⟨database, _, hopen, hnext⟩
    · rw [hnext, hopen]
    · rw [hnext, hopen]
  have hsettled := hconsistent.orderly.settled options.tableName
  have hchunks : ((history.next (.opening options)).session.database.chunks? name).getD {} =
      {} := by
    rw [hdatabase, hsettled.chunks?_openTable, h.chunks]
  by_cases hvectors : ∃ content, (history.next (.opening options)).session.database.table?
      (Database.vectorName name) = some (.vectors content)
  · obtain ⟨content, hvectors⟩ := hvectors
    -- The vector table is new, and its chunk table is there as well.
    have hempty : Table.vectors { dimensions := content.dimensions } = .vectors content := by
      rw [hdatabase] at hvectors
      exact (hsettled.table?_openTable hvectors).resolve_left (h.vectors content)
    have hshape : (history.next (.opening options)).session.database.shape?
        (Database.vectorName name) = some (.vectors content) := by
      rw [Database.shape?, hvectors]
      exact congrArg some hempty
    obtain ⟨chunks, htable⟩ :=
      Database.shape?_eq_chunks.mp (hafter.orderly.sound.paired name content hshape)
    obtain rfl : chunks = {} := by
      rwa [Database.chunks?, htable] at hchunks
    refine Or.inl ⟨content.dimensions, ⟨{}, ⟨?_, ?_, ?_⟩, ?_⟩, ?_⟩
    · refine ⟨{}, content, htable, hvectors, ?_, rfl⟩
      rw [← Table.vectors.inj hempty]
      exact Ledger.recorded_empty _
    · intro handle hhandle
      have hkind := hafter.orderly.handles handle hhandle
      rw [hafter.handles] at hhandle
      obtain ⟨made, hmade, rfl⟩ := List.mem_map.mp hhandle
      refine ⟨fun heq => ?_, rfl, (hafter.opened made hmade).2.2.dimensions⟩
      rw [Database.shape?_congr heq, hshape] at hkind
      cases hkind
    · exact fun pair hpair => absurd hpair List.not_mem_nil
    · exact (congrArg (List.map Prod.snd) h.stored).symm
    · intro pair hpair
      rw [show (history.next (.opening options)).storedIn name = [] from h.stored] at hpair
      cases hpair
  · exact Or.inr ⟨not_exists.mp hvectors, hchunks, h.stored⟩

theorem Unused.storing (h : Unused name history) (hconsistent : Consistent history)
    (index : Nat) (record : Record) : Unused name (history.next (.storing index record)) := by
  rcases hconsistent.next_storing index record with
    hnext | ⟨options, database, hoptions, -, hinsert, hnext⟩
  · rw [hnext]
    exact h
  · have hstored := storedIn_of_append (congrArg History.stored hnext) name
    have hname : Database.fold options.tableName ≠ Database.fold name := by
      intro hname
      obtain ⟨vectors, hvectors, -⟩ := Handle.insert_ok hinsert
      have htable := Handle.vectorTable_ok hvectors
      refine h.vectors vectors ?_
      rw [← Database.table?_congr (Database.fold_vectorName_inj.mpr hname)]
      exact htable
    rw [if_neg hname, List.append_nil] at hstored
    have hsame := (options.handle options.writePolicy).append_sameShape
      (Database.shape?_eq_chunks.mp (hconsistent.opened options hoptions).2.1.chunks) record
    rw [Handle.append_of_insert_eq_ok hinsert] at hsame
    have hsession := congrArg (fun history => history.session.database) hnext
    constructor
    · intro content hcontent
      rw [hsession] at hcontent
      have hshape : database.shape? (Database.vectorName name) =
          some (.vectors { dimensions := content.dimensions }) := by
        rw [Database.shape?, hcontent]
        rfl
      obtain ⟨old, hold⟩ := Database.exists_vectors_of_shape? ((hsame.tables _).symm.trans hshape)
      exact h.vectors old hold
    · rw [hsession]
      exact (Handle.insert_other hinsert hname).trans h.chunks
    · rw [hstored]
      exact h.stored

theorem unused_empty (name : String) : Unused name {} := by
  have hnone : ∀ other, ({} : Database).table? other = none ∨
      ∃ columns, ({} : Database).table? other = some (.internal columns) := by
    intro other
    rw [Database.table?]
    split
    · exact Or.inr ⟨_, rfl⟩
    · exact Or.inl rfl
  refine ⟨fun content h => ?_, ?_, rfl⟩
  · rcases hnone (Database.vectorName name) with hnone | ⟨columns, hcolumns⟩
    · cases hnone.symm.trans h
    · cases hcolumns.symm.trans h
  · show (({} : Database).chunks? name).getD {} = {}
    rw [Database.chunks?]
    rcases hnone name with hnone | ⟨columns, hcolumns⟩
    · rw [hnone]
      rfl
    · rw [hcolumns]
      rfl

/-- Along all events, every table is either unused or holds what was stored in it. -/
theorem traced_or_unused (events : List Event) (name : String) :
    (∃ dimensions, Traced name dimensions (after events)) ∨ Unused name (after events) := by
  suffices h : Consistent (after events) ∧
      ((∃ dimensions, Traced name dimensions (after events)) ∨ Unused name (after events)) from h.2
  refine List.foldlRecOn
    (motive := fun history => Consistent history ∧
      ((∃ dimensions, Traced name dimensions history) ∨ Unused name history))
    events next ⟨.empty, Or.inr (unused_empty name)⟩ ?_
  rintro history ⟨hconsistent, htable⟩ event -
  refine ⟨hconsistent.next event, ?_⟩
  cases event with
  | opening options =>
    rcases htable with ⟨dimensions, htraced⟩ | hunused
    · exact Or.inl ⟨dimensions, htraced.opening options⟩
    · exact hunused.opening hconsistent options
  | storing index record =>
    rcases htable with ⟨dimensions, htraced⟩ | hunused
    · exact Or.inl ⟨dimensions, htraced.storing hconsistent index record⟩
    · exact Or.inr (hunused.storing hconsistent index record)

end

/-! ## What settings are good for -/

/-- Every row of a table was stored through some handle, and all these handles were opened with the
same number of dimensions. Those that spell the name of the table alike were also opened with the
same text policy, because opening under a spelling that was opened before fails if a setting
differs, and says which one. But a spelling that is new can be opened with any settings. -/
theorem alike_of_spelling (events : List Event) (name : String) :
    let database := (Session.performAll { database := {}, handles := [] } events).database
    let history := after events
    (∀ content, database.table? name = some (.chunks content) →
      ∀ row ∈ content.rows, ∃ place options record, row.number = place + 1 ∧
        (history.storedIn name)[place]? = some (options, record) ∧ row.entry = record.toEntry) ∧
    (∀ pair ∈ history.storedIn name, pair.1 ∈ history.opened ∧
      ∀ other ∈ history.storedIn name, pair.1.dimensions = other.1.dimensions ∧
        (pair.1.tableName = other.1.tableName → pair.1.embedText = other.1.embedText)) ∧
    ∀ made ∈ history.opened, Handle.Guards made database ∧
      ∀ options : StoreOptions,
        Database.fold options.tableName = Database.fold made.tableName →
        Database.Unrecorded options.tableName database →
        Handle.openTable options database =
          (database.note options, .ok (options.handle options.writePolicy)) := by
  intro database history
  have hconsistent := Consistent.after events
  have hdatabase : (after events).session.database = database := by rw [session_after]
  refine ⟨fun content hcontent row hrow => ?_, fun pair hpair => ?_, fun made hmade => ?_⟩
  · rw [← hdatabase] at hcontent
    rcases traced_or_unused events name with ⟨dimensions, htraced⟩ | hunused
    · obtain ⟨ledger, hkeeps, htaken⟩ := htraced.ledger
      obtain ⟨chunks, vectors, hchunks, -, hrecorded, -⟩ := hkeeps.tables
      cases hcontent.symm.trans hchunks
      rw [hrecorded.represents.rows] at hrow
      obtain ⟨entry, hentry, rfl⟩ := List.mem_map.mp hrow
      obtain ⟨hpositive, hplace⟩ := hrecorded.places entry hentry
      rw [htaken, List.getElem?_map] at hplace
      obtain ⟨⟨options, record⟩, hstored, hrecord⟩ := Option.map_eq_some_iff.mp hplace
      refine ⟨entry.1 - 1, options, record, (Nat.sub_add_cancel hpositive).symm, hstored, ?_⟩
      exact congrArg Record.toEntry hrecord.symm
    · have hchunks := hunused.chunks
      rw [Database.chunks?, hcontent] at hchunks
      obtain rfl : content = {} := hchunks
      cases hrow
  · have hopened := hconsistent.stored pair (List.mem_filter.mp hpair).1
    refine ⟨hopened, fun other hother => ⟨?_, fun hspelling => ?_⟩⟩
    · rcases traced_or_unused events name with ⟨dimensions, htraced⟩ | hunused
      · exact (htraced.dimensions pair hpair).trans (htraced.dimensions other hother).symm
      · rw [hunused.stored] at hpair
        cases hpair
    · -- Both handles were opened, and there is one setting for the spelling.
      have hother := hconsistent.stored other (List.mem_filter.mp hother).1
      have hembed := (hconsistent.opened pair.1 hopened).2.2.embedText
      rw [hspelling, (hconsistent.opened other.1 hother).2.2.embedText] at hembed
      exact (EmbedText.name_inj (Option.some.inj hembed)).symm
  · obtain ⟨hname, hcomplete, hrecorded⟩ := hconsistent.opened made hmade
    rw [hdatabase] at hcomplete hrecorded
    refine ⟨Handle.guards_of_recorded hname hrecorded, fun options hfold hnew => ?_⟩
    rw [Handle.openTable_of_unrecorded ((Handle.isTableName_congr hfold).trans hname) hnew]
    have hsound := hconsistent.orderly.sound
    rw [hdatabase] at hsound
    have hsame := Database.note_sameShape options database
    have hmade' := (hcomplete.congr hfold.symm).precedes (.of_sameShape hsame)
    rw [hmade'.createTables_eq (hsound.sameShape hsame)]
    rfl

/-- A table is opened under two spellings with two text policies, and holds records of both. -/
theorem mixed_of_capitals :
    let options : StoreOptions := { tableName := "code", dimensions := 1 }
    let capitals : StoreOptions :=
      { tableName := "CODE", dimensions := 1, embedText := .rawCode }
    let first : Record := { (default : Record) with id := "a", embedding := [default] }
    let second : Record := { first with id := "b" }
    let history := after
      [.opening options, .storing 0 first, .opening capitals, .storing 1 second]
    (history.session.database.chunks? "code").map (fun table => table.rows.map Row.entry) =
        some [first.toEntry, second.toEntry] ∧
      history.storedIn "code" = [(options, first), (capitals, second)] ∧
      options.embedText ≠ capitals.embedText := by
  decide +kernel

end History

end CodeSearch
