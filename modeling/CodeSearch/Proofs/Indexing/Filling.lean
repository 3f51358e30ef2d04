import CodeSearch.Proofs.Extract.LineChunks
import CodeSearch.Proofs.Indexing.Reindexing
import CodeSearch.Proofs.Store.Ledger

/-!
# Filling an empty table

Indexing through a handle that replaces records counts every record that it stores, but keeps only
the last one of each identifier. So nothing is lost if and only if all identifiers are different,
as they are for the chunks that are found line by line.

- `WritePolicy.length_putAll_upsert_iff`: storing into an empty list loses nothing if and only if
  the identifiers are different.
- `Session.Keeps.foldl_indexPart`: a run of indexing, on the ledger of the table.
- `Session.indexChunks_of_empty`: what indexing leaves in an empty table.
- `Session.indexChunks_lineChunks`: files that are read line by line are stored without loss.
-/

namespace CodeSearch

/-! ## Lists of records -/

namespace WritePolicy

/-- The identifiers of a list of records. -/
def ids (records : List Record) : List String := records.map fun record => record.id

/-- No two records that are left have the same identifier. -/
theorem nodup_ids_putAll (stored : List Record) : (ids (putAll .upsert stored [])).Nodup := by
  induction stored using List.reverseRecOn with
  | nil => exact List.nodup_nil
  | append_singleton stored last ih =>
    rw [putAll_append, put, ids, List.map_append, List.nodup_append]
    refine ⟨ih.sublist (List.filter_sublist.map _), List.nodup_singleton _, ?_⟩
    intro id hid other hother
    obtain ⟨record, hrecord, rfl⟩ := List.mem_map.mp hid
    have hne := (List.mem_filter.mp hrecord).2
    rw [List.map_singleton, List.mem_singleton] at hother
    rw [hother]
    simpa using hne

/-- Records with different identifiers do not replace each other. -/
theorem putAll_upsert_of_nodup {stored : List Record} (h : (ids stored).Nodup) :
    putAll .upsert stored [] = stored := by
  induction stored using List.reverseRecOn with
  | nil => rfl
  | append_singleton stored last ih =>
    rw [ids, List.map_append, List.nodup_append] at h
    obtain ⟨hstored, -, hdisjoint⟩ := h
    rw [putAll_append, ih hstored, put]
    refine congrArg (· ++ [last]) (List.filter_eq_self.mpr ?_)
    intro record hrecord
    have hne := hdisjoint _ (List.mem_map_of_mem hrecord) _ (List.mem_singleton.mpr rfl)
    simpa using hne

/-- Storing records into an empty list loses none if and only if all identifiers are different. -/
theorem length_putAll_upsert_iff (stored : List Record) :
    (putAll .upsert stored []).length = stored.length ↔ (ids stored).Nodup := by
  constructor
  · intro hlength
    -- The identifiers that are left are different ones out of those that were stored.
    have hsubset : ids (putAll .upsert stored []) ⊆ ids stored := by
      intro id hid
      obtain ⟨record, hrecord, rfl⟩ := List.mem_map.mp hid
      exact id_mem_of_mem_putAll hrecord
    have hsubperm := List.subperm_of_subset (nodup_ids_putAll stored) hsubset
    have hlengths : (ids stored).length ≤ (ids (putAll .upsert stored [])).length := by
      rw [ids, ids, List.length_map, List.length_map, hlength]
    have hperm := hsubperm.perm_of_length_le hlengths
    exact hperm.nodup_iff.mp (nodup_ids_putAll stored)
  · intro hnodup
    rw [putAll_upsert_of_nodup hnodup]

end WritePolicy

/-! ## Runs on a ledger -/

namespace Ledger

/-- The ledger after one record after the other was taken. -/
def putAll (policy : WritePolicy) (stored : List Record) (ledger : Ledger) : Ledger :=
  stored.foldl (fun ledger record => ledger.put policy record) ledger

theorem putAll_append (policy : WritePolicy) (stored later : List Record) (ledger : Ledger) :
    ledger.putAll policy (stored ++ later) = (ledger.putAll policy stored).putAll policy later :=
  List.foldl_append

theorem records_putAll (policy : WritePolicy) (stored : List Record) (ledger : Ledger) :
    (ledger.putAll policy stored).records = policy.putAll stored ledger.records := by
  induction stored using List.reverseRecOn with
  | nil => rfl
  | append_singleton stored last ih =>
    rw [putAll_append, WritePolicy.putAll_append, ← ih]
    exact records_put policy last _

end Ledger

/-- All vectors of the provider have the given number of dimensions, the zero vector included. -/
structure Provider.HasDimensions {τ : Type} (provider : Provider τ) (dimensions : Nat) : Prop where
  own : provider.dimensions = dimensions
  answers : ∀ text state vector, (provider.embed text state).1 = .ok vector →
    vector.length = dimensions

theorem Provider.HasDimensions.length_vectorOr {τ : Type} {provider : Provider τ}
    {dimensions : Nat} (h : provider.HasDimensions dimensions) (text : String) (state : τ) :
    (vectorOr provider.dimensions (provider.embed text state).1).length = dimensions := by
  cases hanswer : (provider.embed text state).1 with
  | ok vector => exact h.answers text state vector hanswer
  | error error =>
    rw [vectorOr, Vector.zero, List.length_replicate]
    exact h.own

theorem Provider.hasDimensions_ofFunction {τ : Type} {dimensions : Nat}
    {answer : String → Except EmbedError Vector}
    (h : ∀ text vector, answer text = .ok vector → vector.length = dimensions) :
    (ofFunction dimensions answer : Provider τ).HasDimensions dimensions where
  own := rfl
  answers := fun text _ vector hvector => h text vector hvector

/-- What is left of a part when it is stored: its identifier and its code. -/
def Part.trace (part : Part) : String × String := (part.id, part.code)

/-- The same of a record. -/
def Record.trace (record : Record) : String × String := (record.id, record.code)

/-- The record is that of a part, with what the provider answered for it. -/
def Indexer.IsAnswered {ε σ τ : Type} (indexer : Indexer ε σ τ) (record : Record) : Prop :=
  ∃ part state, record = indexer.answered part (indexer.question part state)

namespace Session.Keeps

variable {τ : Type} {name : String} {dimensions : Nat} {session : Session} {ledger : Ledger}
  {handle : Handle} {indexer : Indexer StoreError Database τ}

/-- One part is taken, and counted, or it leaves no trace. -/
theorem indexPart (hhandle : handle ∈ session.handles)
    (hname : Database.fold handle.tableName = Database.fold name)
    (hstore : indexer.store = handle.store) (part : Part) (progress : Indexer.Progress Database τ)
    (h : Keeps name dimensions { session with database := progress.content } ledger) :
    ∃ stored : List Record,
      Keeps name dimensions
        { session with database := (indexer.indexPart progress part).content }
        (ledger.putAll handle.writePolicy stored) ∧
      (indexer.indexPart progress part).stored = progress.stored + stored.length ∧
      (stored.map Record.trace).Sublist [part.trace] ∧
      (indexer.provider.HasDimensions dimensions → handle.dimensions = dimensions →
        stored.length = 1) ∧
      ∀ record ∈ stored, indexer.IsAnswered record := by
  have hpart := indexer.indexPart_eq progress part
  generalize hrecord :
    indexer.answered part (indexer.question part progress.state) = record at hpart
  have htrace : record.trace = part.trace := by
    rw [← hrecord]
    rfl
  have happend := h.append hhandle hname record
  rw [hstore] at hpart
  change Keeps name dimensions
    { session with database := (handle.append record progress.content).2 }
    (if (handle.append record progress.content).1.toBool then
      ledger.put handle.writePolicy record else ledger) at happend
  have hcontent : (indexer.indexPart progress part).content =
      (handle.append record progress.content).2 := by
    rw [hpart]
    rfl
  have hstored : (indexer.indexPart progress part).stored =
      progress.stored + (handle.append record progress.content).1.toBool.toNat := by
    rw [hpart]
    rfl
  rw [hcontent, hstored]
  cases houtcome : (handle.append record progress.content).1 with
  | ok stored =>
    rw [houtcome, Except.toBool, if_pos rfl] at happend
    refine ⟨[record], happend, rfl, ?_, fun _ _ => rfl, ?_⟩
    · rw [List.map_singleton, htrace]
    · rintro other hother
      rw [List.mem_singleton.mp hother]
      exact ⟨part, progress.state, hrecord.symm⟩
  | error error =>
    rw [houtcome, Except.toBool, if_neg Bool.false_ne_true] at happend
    refine ⟨[], happend, rfl, List.nil_sublist _, ?_, fun _ h => absurd h List.not_mem_nil⟩
    intro hprovider hdimensions
    -- A record with a vector of the right length is not refused.
    have hlength : record.embedding.length = dimensions := by
      rw [← hrecord]
      exact hprovider.length_vectorOr _ _
    have hok := h.append_ok hhandle hname hdimensions hlength
    rw [houtcome] at hok
    cases hok

/-- Parts are taken, and counted, one after the other; all of them if their vectors fit. -/
theorem foldl_indexPart (hhandle : handle ∈ session.handles)
    (hname : Database.fold handle.tableName = Database.fold name)
    (hstore : indexer.store = handle.store) (parts : List Part)
    (progress : Indexer.Progress Database τ)
    (h : Keeps name dimensions { session with database := progress.content } ledger) :
    ∃ stored : List Record,
      Keeps name dimensions
        { session with database := (parts.foldl indexer.indexPart progress).content }
        (ledger.putAll handle.writePolicy stored) ∧
      (parts.foldl indexer.indexPart progress).stored = progress.stored + stored.length ∧
      (stored.map Record.trace).Sublist (parts.map Part.trace) ∧
      (indexer.provider.HasDimensions dimensions → handle.dimensions = dimensions →
        stored.length = parts.length) ∧
      ∀ record ∈ stored, indexer.IsAnswered record := by
  induction parts generalizing progress ledger with
  | nil =>
    exact ⟨[], h, rfl, List.nil_sublist _, fun _ _ => rfl, fun _ h => absurd h List.not_mem_nil⟩
  | cons part parts ih =>
    obtain ⟨first, hfirst, hcount, hsublist, hall, hanswered⟩ :=
      indexPart hhandle hname hstore part progress h
    obtain ⟨others, hothers, hcounts, hsublists, halls, hanswereds⟩ := ih _ hfirst
    refine ⟨first ++ others, ?_, ?_, ?_, ?_, ?_⟩
    · rw [Ledger.putAll_append]
      exact hothers
    · rw [List.foldl_cons, hcounts, hcount, List.length_append, Nat.add_assoc]
    · rw [List.map_append]
      exact hsublist.append hsublists
    · intro hprovider hdimensions
      rw [List.length_append, hall hprovider hdimensions, halls hprovider hdimensions,
        List.length_cons, Nat.add_comm]
    · intro record hrecord
      rcases List.mem_append.mp hrecord with hrecord | hrecord
      · exact hanswered record hrecord
      · exact hanswereds record hrecord

/-- Indexing into an empty table through a handle that replaces records: it counts what it stored,
and of these the last one of each identifier is left. All parts are stored if their vectors have the
length that the table and the handle ask for. -/
theorem indexChunks_of_empty (h : Keeps name dimensions session ledger)
    (hhandle : handle ∈ session.handles)
    (hname : Database.fold handle.tableName = Database.fold name)
    (hupsert : handle.writePolicy = .upsert)
    (hempty : (handle.statistics session.database).totalChunks = 0)
    (hstore : indexer.store = handle.store) (chunks : List Chunk) (state : τ) :
    let run := indexer.indexChunks chunks session.database state
    ∃ stored : List Record,
      handle.records run.content = .ok (WritePolicy.putAll .upsert stored []) ∧
      (handle.statistics run.content).totalChunks =
        (WritePolicy.putAll .upsert stored []).length ∧
      run.stored = stored.length ∧
      (stored.map Record.trace).Sublist ((indexer.parts chunks).map Part.trace) ∧
      (indexer.provider.HasDimensions dimensions → handle.dimensions = dimensions →
        stored.length = (indexer.parts chunks).length) := by
  intro run
  have hnone : ledger.records = [] := by
    rw [h.statistics_eq hname] at hempty
    exact List.eq_nil_of_length_eq_zero hempty
  obtain ⟨stored, hkeeps, hcount, hsublist, hall, -⟩ := foldl_indexPart hhandle hname hstore
    (indexer.parts chunks) { content := session.database, state } h
  have hrecords : (ledger.putAll handle.writePolicy stored).records =
      WritePolicy.putAll .upsert stored [] := by
    rw [Ledger.records_putAll, hupsert, hnone]
  refine ⟨stored, ?_, ?_, ?_, hsublist, hall⟩
  · rw [← hrecords]
    exact hkeeps.records_eq hname
  · rw [← hrecords]
    exact congrArg Statistics.totalChunks (hkeeps.statistics_eq hname)
  · exact hcount.trans (Nat.zero_add _)

end Session.Keeps

/-! ## Files without loss -/

/-- The handle asks for vectors with the given number of dimensions, and its table takes them. -/
structure Handle.HasDimensions (handle : Handle) (database : Database) (dimensions : Nat) :
    Prop where
  own : handle.dimensions = dimensions
  table : ∃ vectors, handle.vectorTable database = .ok vectors ∧ vectors.dimensions = dimensions

theorem Session.Keeps.eq_of_hasDimensions {name : String} {dimensions other : Nat}
    {session : Session} {ledger : Ledger} (h : Keeps name dimensions session ledger)
    {handle : Handle} (hname : Database.fold handle.tableName = Database.fold name)
    (hdimensions : handle.HasDimensions session.database other) : other = dimensions := by
  obtain ⟨chunks, vectors, -, hvectors, -, rfl⟩ := h.tables
  obtain ⟨vectors', hvectors', rfl⟩ := hdimensions.table
  rw [Handle.vectorTable_of_fold hname hvectors] at hvectors'
  cases hvectors'
  rfl

namespace Session

variable {τ : Type}

/-- In any session, files with different paths are indexed line by line into an empty table through
a handle that replaces records. All identifiers are different, and so the table has as many records
as were counted. If the provider and the table agree on the length of vectors, these are one for
each part of each chunk, in order. -/
theorem indexChunks_lineChunks {options : StoreOptions} {start after : Database} {first : Handle}
    (hchunks : start.table? options.tableName = none)
    (hvectors : start.table? (Database.vectorName options.tableName) = none)
    (hopen : Handle.openTable options start = (after, .ok first)) (events : List Event) :
    let session := performAll { database := after, handles := [first] } events
    ∀ handle ∈ session.handles,
      Database.fold handle.tableName = Database.fold options.tableName →
      handle.writePolicy = .upsert → (handle.statistics session.database).totalChunks = 0 →
      ∀ files : List (String × String),
      (files.map fun file => Path.normalizeSeparators file.1).Nodup →
      ∀ (provider : Provider τ) (splitter : Splitter) (embedText : EmbedText) (state : τ),
      let indexer : Indexer StoreError Database τ :=
        { store := handle.store, provider, splitter, embedText }
      let parts := indexer.parts (Extract.lineChunksOfFiles files)
      let run := indexer.indexChunks (Extract.lineChunksOfFiles files) session.database state
      (parts.map Part.id).Nodup ∧
      (handle.statistics run.content).totalChunks = run.stored ∧
      ∀ dimensions, provider.HasDimensions dimensions →
        handle.HasDimensions session.database dimensions →
        run.stored = windowCount splitter (Extract.lineChunksOfFiles files) ∧
        ∃ records, handle.records run.content = .ok records ∧
          records.map Record.trace = parts.map Part.trace := by
  intro session handle hhandle hname hupsert hempty files hpaths provider splitter embedText state
    indexer parts run
  obtain ⟨dimensions, hkeeps, -⟩ := Keeps.of_openTable hchunks hvectors hopen events
  have hnodup : (parts.map Part.id).Nodup :=
    (indexer.nodup_ids_iff _).mpr (Extract.nodup_keys_lineChunksOfFiles hpaths splitter)
  obtain ⟨stored, hrecords, htotal, hcount, hsublist, hall⟩ :=
    hkeeps.indexChunks_of_empty hhandle hname hupsert hempty (rfl : indexer.store = handle.store)
      (Extract.lineChunksOfFiles files) state
  -- What was stored has some of the identifiers of the parts, and so it has no two alike.
  have hids : (WritePolicy.ids stored).Nodup := by
    have hsublist := hsublist.map Prod.fst
    rw [List.map_map, List.map_map] at hsublist
    exact hnodup.sublist hsublist
  rw [WritePolicy.putAll_upsert_of_nodup hids] at hrecords htotal
  refine ⟨hnodup, htotal.trans hcount.symm, ?_⟩
  intro agreed hprovider htable
  obtain rfl := hkeeps.eq_of_hasDimensions hname htable
  have hlength := hall hprovider htable.own
  refine ⟨?_, stored, hrecords, ?_⟩
  · rw [hcount, hlength, indexer.length_parts]
  · refine hsublist.eq_of_length ?_
    rw [List.length_map, List.length_map, hlength]

/-- A table with vectors of one number is opened twice, the second time to replace records. -/
theorem upsert_of_openedTwice :
    let options : StoreOptions := { dimensions := 1 }
    let session := performAll
      { database := (Handle.openTable options {}).1, handles := [options.handle .append] }
      [.opening { options with writePolicy := .upsert }]
    options.handle .upsert ∈ session.handles ∧
      ((options.handle .upsert).statistics session.database).totalChunks = 0 ∧
      (options.handle .upsert).HasDimensions session.database 1 := by
  intro options session
  refine ⟨?_, ?_, rfl, { dimensions := 1 }, ?_, rfl⟩
  all_goals decide +kernel

/-- Two files with a function of the same name on the same line are indexed with a splitter that
splits the first function: three records are stored, and none is lost. -/
theorem indexChunks_lineChunks_of_two :
    let options : StoreOptions := { dimensions := 1 }
    let session := performAll
      { database := (Handle.openTable options {}).1, handles := [options.handle .append] }
      [.opening { options with writePolicy := .upsert }]
    let files := [("a.ts", "function f() \x7b\n  go()\n\x7d"), ("a/b.ts", "function f() \x7b\x7d")]
    let provider : Provider Unit := Provider.ofFunction 1 fun _ => .error .missingApiKey
    let splitter : Splitter := Splitter.ofBounds 15 0
    let indexer : Indexer StoreError Database Unit :=
      { store := (options.handle .upsert).store, provider, splitter, embedText := .rawCode }
    let run := indexer.indexChunks (Extract.lineChunksOfFiles files) session.database ()
    ((options.handle .upsert).statistics run.content).totalChunks = 3 ∧ run.stored = 3 := by
  intro options session files provider splitter indexer run
  obtain ⟨hhandle, hempty, htable⟩ := upsert_of_openedTwice
  have hpaths : (files.map fun file => Path.normalizeSeparators file.1).Nodup := by
    decide +kernel
  obtain ⟨-, htotal, hall⟩ := indexChunks_lineChunks (by decide) (by decide) openTable_one
    [.opening { options with writePolicy := .upsert }] _ hhandle rfl rfl hempty files hpaths
    provider splitter .rawCode ()
  have hprovider : provider.HasDimensions 1 :=
    Provider.hasDimensions_ofFunction fun text vector hvector => by cases hvector
  have hcount : windowCount splitter (Extract.lineChunksOfFiles files) = 3 := by
    decide +kernel
  have hstored := (hall 1 hprovider htable).1.trans hcount
  exact ⟨htotal.trans hstored, hstored⟩

end Session

end CodeSearch
