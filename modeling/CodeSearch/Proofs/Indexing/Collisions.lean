import CodeSearch.Extract.OutlineExtractor
import CodeSearch.Proofs.Indexing.Filling

/-!
# Chunks that replace each other

The chunks that are found in an outline may start on the same row and go by the same name, as
functions without a name do. Such chunks share their identifiers, unless one of them is split and
the other is not, and only the last one of them stays in a table whose records are replaced.

- `Extract.mem_outlineChunks`: what a chunk says of its file and its kind.
- `Extract.identity`: what tells the chunks of one file apart.
- `Session.indexChunks_outlineChunks`: nothing is lost if and only if no two chunks are alike in
  this.
- `Session.indexChunks_of_nested`: an arrow function that gives an arrow function.
-/

namespace CodeSearch

/-! ## Chunks of an outline -/

namespace Extract

/-- A chunk says of which file it is, and its kind has no colon. -/
theorem mem_outlineChunks {path content : String} {outline : Outline} {chunk : Chunk}
    (h : chunk ∈ outlineChunks path content outline) :
    chunk.file = FileInfo.of path content ∧ ':' ∉ chunk.kind.toList := by
  rcases List.mem_append.mp h with h | h
  · rcases List.mem_append.mp h with h | h
    · obtain ⟨site, -, rfl⟩ := List.mem_map.mp h
      exact ⟨rfl, ChunkKind.function.colon_not_mem_word⟩
    · obtain ⟨site, -, hchunk⟩ := List.mem_filterMap.mp h
      obtain ⟨component, -, rfl⟩ := Option.map_eq_some_iff.mp hchunk
      exact ⟨rfl, ChunkKind.component.colon_not_mem_word⟩
  · obtain ⟨site, -, rfl⟩ := List.mem_map.mp h
    exact ⟨rfl, ChunkKind.importing.colon_not_mem_word⟩

/-- What tells the chunks of one file apart: the kind, the name, the row on which the chunk starts,
and whether it is split. -/
def identity (splitter : Splitter) (chunk : Chunk) : String × String × Nat × Bool :=
  (chunk.kind, chunk.name, chunk.startLine, decide (1 < (splitter.split chunk.code).length))

/-- In one file, keys and identities differ for the same chunks. -/
theorem key_eq_iff_identity_eq {splitter : Splitter} {chunk other : Chunk}
    (hpath : chunk.file.path = other.file.path) (hkind : ':' ∉ chunk.kind.toList)
    (hkind' : ':' ∉ other.kind.toList) :
    chunk.key splitter = other.key splitter ↔
      identity splitter chunk = identity splitter other := by
  simp only [Chunk.key, identity, Prod.mk.injEq, Chunk.label_eq_iff_of_path hpath hkind hkind',
    and_assoc]

/-- The keys of the chunks of an outline are different if and only if their identities are. -/
theorem nodup_keys_outlineChunks_iff (path content : String) (outline : Outline)
    (splitter : Splitter) :
    ((outlineChunks path content outline).map (Chunk.key splitter)).Nodup ↔
      ((outlineChunks path content outline).map (identity splitter)).Nodup := by
  have hiff : ∀ {chunk other : Chunk}, chunk ∈ outlineChunks path content outline →
      other ∈ outlineChunks path content outline →
      (chunk.key splitter = other.key splitter ↔
        identity splitter chunk = identity splitter other) := by
    intro chunk other hchunk hother
    obtain ⟨hfile, hkind⟩ := mem_outlineChunks hchunk
    obtain ⟨hfile', hkind'⟩ := mem_outlineChunks hother
    exact key_eq_iff_identity_eq (by rw [hfile, hfile']) hkind hkind'
  rw [List.Nodup, List.Nodup, List.pairwise_map, List.pairwise_map]
  constructor
  · intro h
    exact h.imp_of_mem fun hchunk hother hne heq => hne ((hiff hchunk hother).mpr heq)
  · intro h
    exact h.imp_of_mem fun hchunk hother hne heq => hne ((hiff hchunk hother).mp heq)

end Extract

/-! ## Loss -/

namespace Session

variable {τ : Type}

/-- In any session, the chunks of an outline are indexed into an empty table through a handle that
replaces records, with a provider that agrees with the table on the length of vectors. Every part is
stored and counted. The identifiers are different, and the table has as many records as were
counted, if and only if no two chunks have the same kind, name and row and are both split or both
not. -/
theorem indexChunks_outlineChunks {options : StoreOptions} {start after : Database}
    {first : Handle} (hchunks : start.table? options.tableName = none)
    (hvectors : start.table? (Database.vectorName options.tableName) = none)
    (hopen : Handle.openTable options start = (after, .ok first)) (events : List Event) :
    let session := performAll { database := after, handles := [first] } events
    ∀ handle ∈ session.handles,
      Database.fold handle.tableName = Database.fold options.tableName →
      handle.writePolicy = .upsert → (handle.statistics session.database).totalChunks = 0 →
      ∀ (path content : String) (outline : Outline) (provider : Provider τ) (dimensions : Nat),
      provider.HasDimensions dimensions → handle.HasDimensions session.database dimensions →
      ∀ (splitter : Splitter) (embedText : EmbedText) (state : τ),
      let indexer : Indexer StoreError Database τ :=
        { store := handle.store, provider, splitter, embedText }
      let chunks := Extract.outlineChunks path content outline
      let run := indexer.indexChunks chunks session.database state
      run.stored = windowCount splitter chunks ∧
      (((indexer.parts chunks).map Part.id).Nodup ↔
        (chunks.map (Extract.identity splitter)).Nodup) ∧
      ((handle.statistics run.content).totalChunks = run.stored ↔
        (chunks.map (Extract.identity splitter)).Nodup) := by
  intro session handle hhandle hname hupsert hempty path content outline provider agreed hprovider
    htable splitter embedText state indexer chunks run
  obtain ⟨dimensions, hkeeps, -⟩ := Keeps.of_openTable hchunks hvectors hopen events
  obtain rfl := hkeeps.eq_of_hasDimensions hname htable
  obtain ⟨stored, -, htotal, hcount, hsublist, hall⟩ :=
    hkeeps.indexChunks_of_empty hhandle hname hupsert hempty (rfl : indexer.store = handle.store)
      chunks state
  have hlength := hall hprovider htable.own
  -- Everything was stored, so the identifiers that were stored are those of the parts.
  have hids : WritePolicy.ids stored = (indexer.parts chunks).map Part.id := by
    have htraces := hsublist.eq_of_length (by rw [List.length_map, List.length_map, hlength])
    have hfirst := congrArg (List.map Prod.fst) htraces
    rwa [List.map_map, List.map_map] at hfirst
  have hnodup : ((indexer.parts chunks).map Part.id).Nodup ↔
      (chunks.map (Extract.identity splitter)).Nodup :=
    (indexer.nodup_ids_iff chunks).trans
      (Extract.nodup_keys_outlineChunks_iff path content outline splitter)
  refine ⟨?_, hnodup, ?_⟩
  · rw [hcount, hlength, indexer.length_parts]
  · rw [htotal, hcount, WritePolicy.length_putAll_upsert_iff, hids]
    exact hnodup

/-- Two arrow functions without a name on different rows: both are kept. -/
theorem indexChunks_outlineChunks_of_rows :
    let options : StoreOptions := { dimensions := 1 }
    let session := performAll
      { database := (Handle.openTable options {}).1, handles := [options.handle .append] }
      [.opening { options with writePolicy := .upsert }]
    let outline : Outline :=
      .node "program" none ⟨0, 14, 0, 2⟩
        [.node "arrow_function" none ⟨0, 6, 0, 0⟩ [], .node "arrow_function" none ⟨7, 13, 1, 1⟩ []]
    let provider : Provider Unit := Provider.ofFunction 1 fun _ => .error .missingApiKey
    let indexer : Indexer StoreError Database Unit :=
      { store := (options.handle .upsert).store
        provider
        splitter := Splitter.default
        embedText := .rawCode }
    let run := indexer.indexChunks (Extract.outlineChunks "a.js" "a => 1\nb => 2\n" outline)
      session.database ()
    run.stored = 2 ∧ ((options.handle .upsert).statistics run.content).totalChunks = 2 := by
  intro options session outline provider indexer run
  obtain ⟨hhandle, hempty, htable⟩ := upsert_of_openedTwice
  have hprovider : provider.HasDimensions 1 :=
    Provider.hasDimensions_ofFunction fun text vector hvector => by cases hvector
  obtain ⟨hcount, -, htotal⟩ := indexChunks_outlineChunks (by decide) (by decide) openTable_one
    [.opening { options with writePolicy := .upsert }] _ hhandle rfl rfl hempty "a.js"
    "a => 1\nb => 2\n" outline provider 1 hprovider htable Splitter.default .rawCode ()
  have hstored : run.stored = 2 := hcount.trans (by decide +kernel)
  exact ⟨hstored, (htotal.mpr (by decide +kernel)).trans hstored⟩

/-- An arrow function that gives an arrow function is on the same row, and neither of them has a
name. Both are stored, under one identifier, and one is left. -/
theorem indexChunks_of_nested :
    let options : StoreOptions := { dimensions := 4, writePolicy := .upsert }
    let handle : Handle := options.handle .upsert
    let database : Database := (Handle.openTable options {}).1
    let outline : Outline :=
      .node "program" none ⟨0, 12, 0, 1⟩
        [.node "expression_statement" none ⟨0, 11, 0, 0⟩
          [.node "arrow_function" none ⟨0, 11, 0, 0⟩
            [.node "identifier" (some "parameter") ⟨0, 1, 0, 0⟩ [],
             .node "arrow_function" (some "body") ⟨5, 11, 0, 0⟩
              [.node "identifier" (some "parameter") ⟨5, 6, 0, 0⟩ [],
               .node "number" (some "body") ⟨10, 11, 0, 0⟩ []]]]]
    let indexer : Indexer StoreError Database Unit :=
      { store := handle.store
        provider := Provider.ofFunction 4 fun _ => .ok (Vector.zero 4)
        splitter := Splitter.default
        embedText := .description }
    let chunks := Extract.outlineChunks "a.js" "a => b => 1\n" outline
    let run := indexer.indexChunks chunks database ()
    (Handle.openTable options {}).2 = .ok handle ∧ indexer.provider.HasDimensions 4 ∧
      (handle.statistics database).totalChunks = 0 ∧
      chunks.map Chunk.code = ["a => b => 1", "b => 1"] ∧
      (indexer.parts chunks).map Part.id = ["a.js:function:unnamed:0", "a.js:function:unnamed:0"] ∧
      run.stored = 2 ∧ (handle.statistics run.content).totalChunks = 1 := by
  intro options handle database outline indexer chunks run
  have hopen : (Handle.openTable options {}).2 = .ok handle := by decide +kernel
  have hprovider : indexer.provider.HasDimensions 4 := by
    refine Provider.hasDimensions_ofFunction ?_
    rintro text vector hvector
    cases hvector
    rfl
  have hempty : (handle.statistics database).totalChunks = 0 := by decide +kernel
  have hcodes : chunks.map Chunk.code = ["a => b => 1", "b => 1"] := by decide +kernel
  have hids : (indexer.parts chunks).map Part.id =
      ["a.js:function:unnamed:0", "a.js:function:unnamed:0"] := by decide +kernel
  have hstored : run.stored = 2 := by decide +kernel
  have htotal : (handle.statistics run.content).totalChunks = 1 := by decide +kernel
  exact ⟨hopen, hprovider, hempty, hcodes, hids, hstored, htotal⟩

end Session

end CodeSearch
