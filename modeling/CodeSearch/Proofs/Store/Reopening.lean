import CodeSearch.Proofs.Store.Soundness

/-!
# Opening once more

What is made stays, and what was in the way of the rest stays too. So it makes no difference
whether the tables of a name are made once or many times, with whatever else in between, and this
also holds if it fails every time.

- `Database.createTables_again`: making the tables of a name again changes nothing.
- `Database.Made`: the tables of a name are complete, and opening does not fail on them.
- `Database.Recorded`, `Database.Unrecorded`: the settings of a table, as they are spelled.
- `Handle.openTable_of_recorded`, `Handle.openTable_of_unrecorded`: all that opening does.
- `Database.Settled`: recorded settings stand for tables that were made as far as possible.
-/

namespace CodeSearch

namespace Database

variable {before later database : Database} {name : String}

/-! ## Making tables again -/

/-- A change that was made before does nothing to a later database when it is made again, and if
something was in its way, then something is now. -/
structure Change.Repeated (earlier again : Change) (later : Database) : Prop where
  idle : again.1 = later
  fault : earlier.2.isSome = true → again.2.isSome = true

theorem Change.Repeated.andThen {earlier again : Change} {next : Database → Change}
    (h : Repeated earlier again later)
    (hnext : earlier.2 = none → Repeated (next earlier.1) (next later) later) :
    Repeated (Change.andThen earlier next) (Change.andThen again next) later := by
  obtain ⟨made, fault⟩ := earlier
  obtain ⟨idle, fault'⟩ := again
  obtain rfl : idle = later := h.idle
  cases fault' with
  | some fault' => exact ⟨rfl, fun _ => rfl⟩
  | none =>
    cases fault with
    | some fault => cases h.fault rfl
    | none => exact hnext rfl

theorem createChunks_again (hsound : Sound later)
    (hprecedes : Precedes (createChunks name before).1 later) :
    Change.Repeated (createChunks name before) (createChunks name later) later := by
  have hbefore : Precedes before later :=
    (Precedes.of_additions (createChunks_additions name before)).trans hprecedes
  by_cases hreserved : isReserved name = true
  · simp only [createChunks, hreserved, if_true]
    exact ⟨rfl, fun _ => rfl⟩
  · by_cases htable : (later.table? name).isSome = true
    · have hlater : createChunks name later = (later, none) := by
        rw [createChunks, if_neg hreserved, if_pos htable]
      -- With this table, no index has the name now, and so none had it before.
      have hindex : before.hasIndex name = false := by
        refine Bool.eq_false_iff.mpr fun hindex => ?_
        rw [← isSome_shape?, hsound.free name (hbefore.indexes name hindex)] at htable
        cases htable
      rw [hlater, createChunks, if_neg hreserved, if_neg (Bool.eq_false_iff.mp hindex)]
      refine ⟨rfl, fun hfault => ?_⟩
      split at hfault <;> cases hfault
    · have hnone : ¬ (before.table? name).isSome = true := mt hbefore.isSome_table? htable
      have hindex : before.hasIndex name = true := by
        by_contra hindex
        rw [createChunks, if_neg hreserved, if_neg hnone, if_neg hindex] at hprecedes
        refine htable (hprecedes.isSome_table? ?_)
        rw [table?_addTable, if_pos rfl]
        cases before.table? name <;> rfl
      rw [createChunks, createChunks, if_neg hreserved, if_neg hreserved, if_neg hnone,
        if_neg htable, if_pos hindex, if_pos (hbefore.indexes name hindex)]
      exact ⟨rfl, fun _ => rfl⟩

theorem createIndex_again {index : String × String} (hindex : index ∈ chunkIndexes name)
    (htable : (before.table? name).isSome = true) (hsound : Sound later)
    (hprecedes : Precedes (createIndex name index.1 index.2 before).1 later) :
    Change.Repeated (createIndex name index.1 index.2 before)
      (createIndex name index.1 index.2 later) later := by
  have hbefore : Precedes before later :=
    (Precedes.of_additions (createIndex_additions hindex before)).trans hprecedes
  have hsame := hbefore.bind_indexColumns? htable
  by_cases hmade : later.hasIndex index.1 = true
  · -- The index is there, and what it needs was there from the beginning.
    obtain ⟨columns, hcolumns, hcolumn⟩ := hsound.columns name index hindex hmade
    rw [bind_indexColumns?] at hcolumns
    have hfree := shape?_eq_none.mp (hsound.free _ hmade)
    have hnone : ¬ (before.table? index.1).isSome = true := by
      refine mt hbefore.isSome_table? ?_
      rw [hfree]
      exact Bool.false_ne_true
    constructor
    · simp [createIndex, hcolumns, hfree, hmade]
    · intro hfault
      rw [createIndex, ← hsame, hcolumns] at hfault
      dsimp only at hfault
      rw [if_neg hnone] at hfault
      by_cases hold : before.hasIndex index.1 = true
      · rw [if_pos hold] at hfault
        cases hfault
      · rw [if_neg hold, if_neg (by simpa using hcolumn)] at hfault
        cases hfault
  · -- The index could not be made, and still cannot.
    suffices h : (createIndex name index.1 index.2 later).1 = later ∧
        (createIndex name index.1 index.2 later).2.isSome = true from ⟨h.1, fun _ => h.2⟩
    rw [createIndex]
    split
    · exact ⟨rfl, rfl⟩
    · next columns hcolumns =>
      split
      · exact ⟨rfl, rfl⟩
      · next hfree =>
        split
        · exact ⟨rfl, rfl⟩
        · next hcolumn =>
          refine absurd (hprecedes.indexes index.1 ?_) hmade
          have hnone := mt hbefore.isSome_table? hfree
          have hnew := mt (hbefore.indexes index.1) hmade
          rw [createIndex, ← hsame, hcolumns]
          dsimp only
          rw [if_neg hnone, if_neg hnew, if_neg hcolumn]
          simp [hasIndex]

/-- Indexes that come one after the other. -/
theorem createIndexes_again {indexes : List (String × String)}
    (hindexes : indexes ⊆ chunkIndexes name) {earlier again : Change}
    (htable : earlier.2 = none → (earlier.1.table? name).isSome = true) (hsound : Sound later)
    (h : Change.Repeated earlier again later)
    (hprecedes : Precedes (indexes.foldl
      (fun change index => Change.andThen change (createIndex name index.1 index.2))
        earlier).1 later) :
    Change.Repeated
      (indexes.foldl (fun change index => Change.andThen change (createIndex name index.1 index.2))
        earlier)
      (indexes.foldl (fun change index => Change.andThen change (createIndex name index.1 index.2))
        again) later := by
  induction indexes generalizing earlier again with
  | nil => exact h
  | cons first indexes ih =>
    obtain ⟨hfirst, hindexes⟩ := List.cons_subset.mp hindexes
    refine ih hindexes ?_ (h.andThen fun hnone => ?_) hprecedes
    · intro hnone
      obtain ⟨made, rfl, -⟩ := Change.andThen_ok (Prod.ext rfl hnone)
      exact (Precedes.of_additions (createIndex_additions hfirst made)).isSome_table? (htable rfl)
    · obtain ⟨made, fault⟩ := earlier
      obtain rfl : fault = none := hnone
      refine createIndex_again hfirst (htable rfl) hsound ?_
      exact (Precedes.of_additions (createIndexes_additions hindexes _)).trans hprecedes

/-- Nothing is in the way of a vector table. -/
structure CanCreateVectors (name : String) (dimensions : Nat) (database : Database) : Prop where
  table : database.table? name = none
  index : database.hasIndex name = false
  dimensions : 0 < understoodDimensions dimensions ∧
    understoodDimensions dimensions ≤ VectorTable.maxDimensions
  internal : ∀ inner ∈ internalTables name,
    database.table? inner.1 = none ∧ database.hasIndex inner.1 = false

theorem createVectors_of_not {dimensions : Nat}
    (h : ¬ CanCreateVectors name dimensions database) :
    (createVectors name dimensions database).1 = database ∧
      ((createVectors name dimensions database).2 = none →
        (database.table? name).isSome = true) := by
  rw [createVectors]
  split
  · next htable => exact ⟨rfl, fun _ => htable⟩
  · next htable =>
    split
    · exact ⟨rfl, fun hnone => absurd hnone (Option.some_ne_none _)⟩
    · next hindex =>
      dsimp only
      split
      · exact ⟨rfl, fun hnone => absurd hnone (Option.some_ne_none _)⟩
      · next hrange =>
        split
        · exact ⟨rfl, fun hnone => absurd hnone (Option.some_ne_none _)⟩
        · next hinner =>
          simp only [Bool.or_eq_true, decide_eq_true_eq, not_or, Int.not_le, Int.not_lt] at hrange
          refine absurd ⟨by simpa using htable, by simpa using hindex, hrange, ?_⟩ h
          intro inner hmem
          have hfree := List.find?_eq_none.mp hinner inner hmem
          simpa using hfree

theorem createVectors_of_can {dimensions : Nat} (h : CanCreateVectors name dimensions database) :
    ((createVectors name dimensions database).1.table? name).isSome = true := by
  have hrange : ¬ (decide (understoodDimensions dimensions ≤ 0) ||
      decide (VectorTable.maxDimensions < understoodDimensions dimensions)) = true := by
    have := h.dimensions
    simp only [Bool.or_eq_true, decide_eq_true_eq]
    omega
  have hinner : (internalTables name).find? (fun inner =>
      (database.table? inner.1).isSome || database.hasIndex inner.1) = none := by
    refine List.find?_eq_none.mpr fun inner hmem => ?_
    obtain ⟨htable, hindex⟩ := h.internal inner hmem
    simp [htable, hindex]
  rw [createVectors, h.table, h.index, Option.isSome_none, if_neg Bool.false_ne_true,
    if_neg Bool.false_ne_true]
  dsimp only
  rw [if_neg hrange, hinner]
  obtain ⟨-, -, hsome, -⟩ := foldl_addTable (internalTables name) (database.addTable name
    (.vectors { dimensions := (understoodDimensions dimensions).toNat }))
  rw [hsome name (.vectors { dimensions := (understoodDimensions dimensions).toNat })]
  · rfl
  · rw [table?_addTable, h.table, if_pos rfl]
    rfl

/-- What is in the way of a vector table stays there. -/
theorem CanCreateVectors.of_precedes {dimensions : Nat} (hprecedes : Precedes before later)
    (h : CanCreateVectors name dimensions later) : CanCreateVectors name dimensions before := by
  have htable : ∀ {other}, later.table? other = none → before.table? other = none := by
    intro other hnone
    by_contra hsome
    have := hprecedes.isSome_table? (Option.isSome_iff_ne_none.mpr hsome)
    rw [hnone] at this
    cases this
  have hindex : ∀ {other}, later.hasIndex other = false → before.hasIndex other = false := by
    intro other hfalse
    refine Bool.eq_false_iff.mpr fun htrue => ?_
    rw [hprecedes.indexes other htrue] at hfalse
    cases hfalse
  exact
    { table := htable h.table
      index := hindex h.index
      dimensions := h.dimensions
      internal := fun inner hmem =>
        ⟨htable (h.internal inner hmem).1, hindex (h.internal inner hmem).2⟩ }

theorem createVectors_again {dimensions : Nat} (hbefore : Precedes before later)
    (hprecedes : Precedes (createVectors name dimensions before).1 later) :
    (createVectors name dimensions later).1 = later := by
  refine (createVectors_of_not fun hcan => ?_).1
  -- The table could have been made before, and then it would be there.
  have hmade := hprecedes.isSome_table? (createVectors_of_can (hcan.of_precedes hbefore))
  rw [hcan.table] at hmade
  cases hmade

theorem isSome_of_createChunks (h : (createChunks name database).2 = none) :
    ((createChunks name database).1.table? name).isSome = true := by
  rw [createChunks] at h ⊢
  split at h
  · cases h
  · split at h
    · next hreserved htable => simp [hreserved, htable]
    · split at h
      · cases h
      · next hreserved htable hindex =>
        rw [if_neg hreserved, if_neg htable, if_neg hindex, table?_addTable, if_pos rfl]
        cases database.table? name <;> rfl

/-- Making the tables of a name again changes nothing, and it does not matter how far it came the
first time and what was done since. -/
theorem createTables_again {dimensions : Nat} (hsound : Sound later)
    (hprecedes : Precedes (createTables name dimensions before).1 later) :
    (createTables name dimensions later).1 = later := by
  have hindexed : Precedes (createIndexed name before).1 later :=
    (Precedes.of_additions (createIndexed_additions_createTables _ _ _)).trans hprecedes
  have hchunks : Precedes (createChunks name before).1 later :=
    (Precedes.of_additions (createIndexes_additions (List.Subset.refl _) _)).trans hindexed
  have hrepeated : Change.Repeated (createIndexed name before) (createIndexed name later) later :=
    createIndexes_again (List.Subset.refl _) isSome_of_createChunks hsound
      (createChunks_again hsound hchunks) hindexed
  rw [createTables_eq_andThen]
  cases hlater : createIndexed name later with
  | mk idle fault =>
    rw [hlater] at hrepeated
    obtain rfl : idle = later := hrepeated.idle
    cases fault with
    | some fault => rfl
    | none =>
      -- With nothing in the way now, the vector table was tried before.
      cases hearlier : createIndexed name before with
      | mk made fault =>
        rw [hearlier] at hrepeated hindexed
        rw [createTables_eq_andThen, hearlier] at hprecedes
        cases fault with
        | some fault => cases hrepeated.fault rfl
        | none =>
          dsimp only [Change.andThen] at hprecedes ⊢
          exact createVectors_again hindexed hprecedes

/-! ## Complete tables -/

/-- The tables of a name are complete. -/
structure Made (name : String) (database : Database) : Prop where
  isAllowed : isReserved name = false
  chunks : database.shape? name = some (.chunks {})
  indexes : ∀ index ∈ chunkIndexes name, database.hasIndex index.1 = true
  vectors : (database.table? (vectorName name)).isSome = true

namespace Made

theorem of_createTables {dimensions : Nat} {after : Database} (hsound : Sound after)
    (h : createTables name dimensions database = (after, none)) : Made name after := by
  obtain ⟨indexed, hindexed, hvectors⟩ := Change.andThen_ok h
  obtain ⟨withChunks, hchunks⟩ := Change.foldl_andThen_ok hindexed
  have hindexes : ∀ index ∈ chunkIndexes name, after.hasIndex index.1 = true := by
    intro index hindex
    have hadditions := createVectors_additions dimensions (hasIndex_of_createIndexed hindexed)
    rw [hvectors] at hadditions
    exact hadditions.hasIndex (hasIndex_of_createIndexed hindexed index hindex)
  constructor
  · rw [createChunks] at hchunks
    split at hchunks
    · cases hchunks
    · next hreserved => exact Bool.eq_false_iff.mpr hreserved
  · exact hsound.chunks_of_indexes hindexes
  · exact hindexes
  · by_cases hcan : CanCreateVectors (vectorName name) dimensions indexed
    · have hmade := createVectors_of_can hcan
      rwa [hvectors] at hmade
    · obtain ⟨hidle, hthere⟩ := createVectors_of_not hcan
      rw [hvectors] at hidle hthere
      obtain rfl : after = indexed := hidle
      exact hthere rfl

theorem precedes (h : Made name before) (hprecedes : Precedes before later) :
    Made name later where
  isAllowed := h.isAllowed
  chunks := hprecedes.tables _ _ h.chunks
  indexes := fun index hindex => hprecedes.indexes _ (h.indexes index hindex)
  vectors := hprecedes.isSome_table? h.vectors

/-- It does not matter how the name is spelled. -/
theorem congr {other : String} (hname : fold name = fold other) (h : Made name database) :
    Made other database where
  isAllowed := by
    rw [isReserved, ← hname]
    exact h.isAllowed
  chunks := by
    rw [← shape?_congr hname]
    exact h.chunks
  indexes := by
    intro index hindex
    obtain ⟨column, hcolumn, rfl⟩ := List.mem_map.mp hindex
    have hmade := h.indexes _ (List.mem_map_of_mem hcolumn)
    rw [hasIndex] at hmade ⊢
    simp only [fold_append, hname] at hmade ⊢
    exact hmade
  vectors := by
    rw [← table?_congr (fold_vectorName_inj.mpr hname)]
    exact h.vectors

theorem createTables_eq (h : Made name database) (hsound : Sound database) (dimensions : Nat) :
    createTables name dimensions database = (database, none) := by
  refine createTables_eq_self h.isAllowed (shape?_eq_chunks.mp h.chunks) ?_ h.vectors dimensions
  intro index hindex
  have hmade := h.indexes index hindex
  exact ⟨shape?_eq_none.mp (hsound.free _ hmade), hmade⟩

end Made

end Database

/-! ## Settings -/

theorem EmbedText.name_inj {policy other : EmbedText} (h : policy.name = other.name) :
    policy = other := by
  cases policy <;> cases other <;> first | rfl | exact absurd h (by decide)

/-- What is recorded of the options when a table is opened for the first time. -/
def StoreOptions.settings (options : StoreOptions) : List Setting :=
  [⟨options.tableName, "dimensions", Text.decimal options.dimensions⟩,
   ⟨options.tableName, "embed_text", options.embedText.name⟩]

namespace Database

/-- Both settings are recorded, under the name as the options spell it. -/
structure Recorded (options : StoreOptions) (database : Database) : Prop where
  dimensions : database.setting? options.tableName "dimensions" =
    some (Text.decimal options.dimensions)
  embedText : database.setting? options.tableName "embed_text" = some options.embedText.name

/-- Neither setting is recorded under the name as it is spelled. -/
structure Unrecorded (name : String) (database : Database) : Prop where
  dimensions : database.setting? name "dimensions" = none
  embedText : database.setting? name "embed_text" = none

/-- The database with the settings of the options. -/
def note (options : StoreOptions) (database : Database) : Database :=
  { database with settings := database.settings ++ options.settings }

section

variable {options : StoreOptions} {database : Database} {name : String}

theorem note_sameShape (options : StoreOptions) (database : Database) :
    SameShape database (database.note options) :=
  ⟨fun _ => rfl, rfl⟩

theorem recorded_note (h : Unrecorded options.tableName database) :
    Recorded options (database.note options) where
  dimensions := by
    have hnone := h.dimensions
    rw [setting?, Option.map_eq_none_iff] at hnone
    rw [setting?, note, List.find?_append, hnone]
    simp [StoreOptions.settings]
  embedText := by
    have hnone := h.embedText
    rw [setting?, Option.map_eq_none_iff] at hnone
    rw [setting?, note, List.find?_append, hnone]
    simp [StoreOptions.settings]

theorem Recorded.extends {after : Database} (h : Recorded options database)
    (hextends : Extends database after) : Recorded options after where
  dimensions := hextends.settings _ _ _ h.dimensions
  embedText := hextends.settings _ _ _ h.embedText

/-- Other names, and other spellings of the name, keep their settings. -/
theorem setting?_note_of_ne (h : name ≠ options.tableName) (key : String) :
    (database.note options).setting? name key = database.setting? name key := by
  rw [setting?, setting?, note, List.find?_append, StoreOptions.settings]
  simp [h.symm]

end

end Database

namespace Handle

open Database

variable {options : StoreOptions} {database : Database}

/-! ## All that opening does -/

/-- What opening comes to when it comes to making the tables. -/
def afterTables (options : StoreOptions) (change : Change) : Database × Except StoreError Handle :=
  (change.1,
    match change.2 with
    | some fault => .error (.database fault)
    | none => .ok (options.handle options.writePolicy))

theorem openTable_of_not_name (h : isTableName options.tableName = false) :
    openTable options database = (database, .error (.invalidTableName options.tableName)) := by
  rw [openTable, h]
  rfl

theorem openTable_of_checked {noted recorded : Database}
    (hname : isTableName options.tableName = true)
    (hdimensions : database.checkSetting options.tableName "dimensions"
      (Text.decimal options.dimensions) = .ok noted)
    (hembed : noted.checkSetting options.tableName "embed_text" options.embedText.name =
      .ok recorded) :
    openTable options database =
      afterTables options (createTables options.tableName options.dimensions recorded) := by
  rw [openTable, hname, hdimensions]
  dsimp only
  rw [hembed]
  dsimp only
  rw [afterTables]
  cases createTables options.tableName options.dimensions recorded with
  | mk after fault => cases fault <;> rfl

/-- The first opening under a spelling records the settings, and then makes the tables. -/
theorem openTable_of_unrecorded (hname : isTableName options.tableName = true)
    (h : Unrecorded options.tableName database) :
    openTable options database =
      afterTables options
        (createTables options.tableName options.dimensions (database.note options)) := by
  have hdimensions : database.checkSetting options.tableName "dimensions"
      (Text.decimal options.dimensions) = .ok { database with
        settings := database.settings ++
          [⟨options.tableName, "dimensions", Text.decimal options.dimensions⟩] } := by
    rw [checkSetting, h.dimensions]
  refine openTable_of_checked hname hdimensions ?_
  have hnone := h.embedText
  rw [setting?, Option.map_eq_none_iff] at hnone
  rw [checkSetting, setting?, List.find?_append, hnone]
  simp [note, StoreOptions.settings]

/-- Opening under a spelling whose settings are recorded compares them first. -/
theorem openTable_of_recorded {made : StoreOptions} (hname : isTableName options.tableName = true)
    (hspelling : options.tableName = made.tableName) (h : Recorded made database) :
    openTable options database =
      if options.dimensions ≠ made.dimensions then
        (database, .error (.settingsMismatch options.tableName "dimensions"
          (Text.decimal made.dimensions) (Text.decimal options.dimensions)))
      else if options.embedText ≠ made.embedText then
        (database, .error (.settingsMismatch options.tableName "embed_text"
          made.embedText.name options.embedText.name))
      else afterTables options (createTables options.tableName options.dimensions database) := by
  have hdimensions := h.dimensions
  have hembed := h.embedText
  rw [← hspelling] at hdimensions hembed
  by_cases hsame : options.dimensions = made.dimensions
  · rw [if_neg (not_not.mpr hsame)]
    rw [← hsame] at hdimensions
    by_cases hequal : options.embedText = made.embedText
    · rw [if_neg (not_not.mpr hequal)]
      rw [← hequal] at hembed
      exact openTable_of_checked hname (checkSetting_of_stored hdimensions)
        (checkSetting_of_stored hembed)
    · have hnames : made.embedText.name ≠ options.embedText.name := by
        intro heq
        exact hequal (EmbedText.name_inj heq).symm
      rw [if_pos hequal, openTable, hname, checkSetting_of_stored hdimensions]
      dsimp only
      rw [checkSetting, hembed]
      dsimp only
      rw [if_neg hnames]
      rfl
  · have hnumerals : Text.decimal made.dimensions ≠ Text.decimal options.dimensions := by
      intro heq
      exact hsame (Text.decimal_inj heq).symm
    rw [if_pos hsame, openTable, hname, checkSetting, hdimensions]
    dsimp only
    rw [if_neg hnumerals]
    rfl

/-- Opening under the spelling of these options, but with other settings, fails and says which
setting differs. -/
structure Guards (made : StoreOptions) (database : Database) : Prop where
  dimensions : ∀ options : StoreOptions, options.tableName = made.tableName →
    options.dimensions ≠ made.dimensions →
      openTable options database =
        (database, .error (.settingsMismatch made.tableName "dimensions"
          (Text.decimal made.dimensions) (Text.decimal options.dimensions)))
  embedText : ∀ options : StoreOptions, options.tableName = made.tableName →
    options.dimensions = made.dimensions → options.embedText ≠ made.embedText →
      openTable options database =
        (database, .error (.settingsMismatch made.tableName "embed_text"
          made.embedText.name options.embedText.name))

theorem guards_of_recorded {made : StoreOptions} (hname : isTableName made.tableName = true)
    (h : Recorded made database) : Guards made database where
  dimensions := by
    intro options hspelling hdimensions
    rw [openTable_of_recorded (hspelling ▸ hname) hspelling h, if_pos hdimensions, hspelling]
  embedText := by
    intro options hspelling hdimensions hembed
    rw [openTable_of_recorded (hspelling ▸ hname) hspelling h, if_neg (not_not.mpr hdimensions),
      if_pos hembed, hspelling]

end Handle

namespace Database

variable {before later : Database} {name : String}

/-! ## Settled names -/

/-- No settings are recorded under this spelling of a name, or they are, and the tables were made
for them as far as possible. -/
def Settled (name : String) (database : Database) : Prop :=
  Unrecorded name database ∨
    ∃ made : StoreOptions, made.tableName = name ∧ Recorded made database ∧
      (createTables name made.dimensions database).1 = database

theorem settled_empty (name : String) : Settled name {} := Or.inl ⟨rfl, rfl⟩

theorem Settled.precedes (h : Settled name before) (hsound : Sound later)
    (hprecedes : Precedes before later)
    (hsettings : ∀ key, later.setting? name key = before.setting? name key) :
    Settled name later := by
  rcases h with h | ⟨made, rfl, hrecorded, hidle⟩
  · exact Or.inl ⟨(hsettings _).trans h.dimensions, (hsettings _).trans h.embedText⟩
  · refine Or.inr ⟨made, rfl, ⟨(hsettings _).trans hrecorded.dimensions,
      (hsettings _).trans hrecorded.embedText⟩, ?_⟩
    have hmade : Precedes (createTables made.tableName made.dimensions before).1 later := by
      rw [hidle]
      exact hprecedes
    exact createTables_again hsound hmade

/-- If a name is settled, opening changes nothing, or it is the first under this spelling. -/
theorem Settled.openTable_cases {options : StoreOptions} {database : Database}
    (h : Settled options.tableName database) :
    (Handle.openTable options database).1 = database ∧
        ((∃ fault, (Handle.openTable options database).2 = .error (.database fault)) →
          ¬ Unrecorded options.tableName database) ∨
      Handle.isTableName options.tableName = true ∧ Unrecorded options.tableName database ∧
        Handle.openTable options database = Handle.afterTables options
          (createTables options.tableName options.dimensions (database.note options)) := by
  cases hname : Handle.isTableName options.tableName with
  | false =>
    rw [Handle.openTable_of_not_name hname]
    refine Or.inl ⟨rfl, ?_⟩
    rintro ⟨fault, hfault⟩
    cases hfault
  | true =>
    rcases h with h | ⟨made, hspelling, hrecorded, hidle⟩
    · exact Or.inr ⟨rfl, h, Handle.openTable_of_unrecorded hname h⟩
    · refine Or.inl ⟨?_, fun _ hnone => ?_⟩
      · rw [Handle.openTable_of_recorded hname hspelling.symm hrecorded]
        split
        · rfl
        · next hdimensions =>
          split
          · rfl
          · rw [Handle.afterTables, not_not.mp hdimensions]
            exact hidle
      · have hdimensions := hnone.dimensions
        rw [← hspelling, hrecorded.dimensions] at hdimensions
        cases hdimensions

end Database

end CodeSearch
