import CodeSearch.Extract.LineExtractor
import CodeSearch.Proofs.Extract.Declarations
import CodeSearch.Proofs.Indexing.Identifiers

/-!
# Chunks found line by line

A line gives at most one chunk of each kind, and the name of a chunk is made of word characters. So
the chunks of a file have different identifiers, and so have those of files with different paths.

- `mem_declarationsOf_iff`, `mem_importsOf_iff`: the chunks of each kind, line by line.
- `mem_lineChunksOf`: what a chunk says of its file, its kind and its name.
- `pairwise_startLines`: the chunks of one kind start on later and later lines.
- `nodup_places_lineChunksOf`: at most one chunk of each kind on a line.
- `nodup_keys_lineChunks`: the keys of the chunks of some files are different.
-/

namespace CodeSearch.Extract

/-! ## Names -/

theorem IsName.colon_not_mem {name : List Char} (h : IsName name) : ':' ∉ name := by
  intro hmem
  have hcolon : Text.isWord ':' = false := by decide
  rw [h ':' hmem] at hcolon
  cases hcolon

/-- The name of a chunk has no colon if the name that was found has none. -/
theorem colon_not_mem_nameOr {found : Option String}
    (h : ∀ name ∈ found, ':' ∉ name.toList) : ':' ∉ (Chunk.nameOr found).toList := by
  have hunnamed : ':' ∉ Chunk.unnamed.toList := by decide
  cases found with
  | none => exact hunnamed
  | some name =>
    rw [Chunk.nameOr]
    split
    · exact hunnamed
    · exact h name rfl

/-! ## Chunks of a file -/

section

variable {kind : ChunkKind} {patterns : List LinePattern} {lines : List (List Char)}
  {file : FileInfo} {chunk : Chunk}

/-- The chunks of declarations are those of the lines on which one is found. -/
theorem mem_declarationsOf_iff :
    chunk ∈ declarationsOf kind patterns lines file ↔
      ∃ index line declaration, lines[index]? = some line ∧
        declaration? patterns line = some declaration ∧
        blockChunk kind lines file index declaration = chunk := by
  constructor
  · intro h
    obtain ⟨⟨line, index⟩, hplace, hfound⟩ := List.mem_filterMap.mp h
    obtain ⟨declaration, hdeclaration, hchunk⟩ := Option.map_eq_some_iff.mp hfound
    exact ⟨index, line, declaration, List.mk_mem_zipIdx_iff_getElem?.mp hplace, hdeclaration,
      hchunk⟩
  · rintro ⟨index, line, declaration, hline, hdeclaration, hchunk⟩
    exact List.mem_filterMap.mpr ⟨(line, index), List.mk_mem_zipIdx_iff_getElem?.mpr hline,
      Option.map_eq_some_iff.mpr ⟨declaration, hdeclaration, hchunk⟩⟩

/-- The chunks of imports are those of the lines that are imports without their blank ends. -/
theorem mem_importsOf_iff :
    chunk ∈ importsOf lines file ↔
      ∃ index line, lines[index]? = some line ∧ isImport (Text.trim line) = true ∧
        Chunk.named ChunkKind.importing.word none (String.ofList (Text.trim line)) index index
          "import_statement" file = chunk := by
  simp only [importsOf, List.mem_filterMap, Prod.exists, List.mk_mem_zipIdx_iff_getElem?,
    Option.ite_none_right_eq_some, Option.some_inj]
  exact exists_comm

theorem kind_of_mem_declarationsOf (h : chunk ∈ declarationsOf kind patterns lines file) :
    chunk.kind = kind.word := by
  obtain ⟨index, line, declaration, -, -, rfl⟩ := mem_declarationsOf_iff.mp h
  rfl

theorem kind_of_mem_importsOf (h : chunk ∈ importsOf lines file) :
    chunk.kind = ChunkKind.importing.word := by
  obtain ⟨index, line, -, -, rfl⟩ := mem_importsOf_iff.mp h
  rfl

/-- The chunk of a declaration says of which file it is, and its name has no colon. -/
theorem colon_not_mem_of_mem_declarationsOf (hpatterns : ∀ pattern ∈ patterns, pattern.IsRegular)
    (h : chunk ∈ declarationsOf kind patterns lines file) :
    chunk.file = file ∧ ':' ∉ chunk.name.toList := by
  obtain ⟨index, line, declaration, -, hdeclaration, rfl⟩ := mem_declarationsOf_iff.mp h
  refine ⟨rfl, colon_not_mem_nameOr ?_⟩
  rintro name ⟨⟩
  rw [String.toList_ofList]
  exact (isWordOf_of_declaration? hpatterns hdeclaration).isName.colon_not_mem

/-- The chunk of an import says of which file it is, and its name has no colon. -/
theorem colon_not_mem_of_mem_importsOf (h : chunk ∈ importsOf lines file) :
    chunk.file = file ∧ ':' ∉ chunk.name.toList := by
  obtain ⟨index, line, -, -, rfl⟩ := mem_importsOf_iff.mp h
  refine ⟨rfl, colon_not_mem_nameOr ?_⟩
  rintro name ⟨⟩

/-- A chunk says of which file it is, and neither its kind nor its name has a colon. -/
theorem mem_lineChunksOf {text : List Char} (h : chunk ∈ lineChunksOf file text) :
    chunk.file = file ∧ ':' ∉ chunk.kind.toList ∧ ':' ∉ chunk.name.toList := by
  have hkind : ∀ kind : ChunkKind, chunk.kind = kind.word → ':' ∉ chunk.kind.toList := by
    intro kind heq
    rw [heq]
    exact kind.colon_not_mem_word
  rcases List.mem_append.mp h with h | h
  · rcases List.mem_append.mp h with h | h
    · obtain ⟨hfile, hname⟩ := colon_not_mem_of_mem_declarationsOf isRegular_of_function h
      exact ⟨hfile, hkind .function (kind_of_mem_declarationsOf h), hname⟩
    · obtain ⟨hfile, hname⟩ := colon_not_mem_of_mem_declarationsOf isRegular_of_component h
      exact ⟨hfile, hkind .component (kind_of_mem_declarationsOf h), hname⟩
  · obtain ⟨hfile, hname⟩ := colon_not_mem_of_mem_importsOf h
    exact ⟨hfile, hkind .importing (kind_of_mem_importsOf h), hname⟩

/-- Chunks that are found at the lines where they start are found in the order of these lines. -/
theorem pairwise_startLines {find : List Char × Nat → Option Chunk}
    (hstart : ∀ place chunk, find place = some chunk → chunk.startLine = place.2) :
    (lines.zipIdx.filterMap find).Pairwise fun chunk later =>
      chunk.startLine < later.startLine := by
  rw [List.pairwise_filterMap]
  refine (pairwise_zipIdx lines).imp ?_
  intro place other hlt chunk hchunk chunk' hchunk'
  rw [hstart _ _ hchunk, hstart _ _ hchunk']
  exact hlt

theorem pairwise_startLines_declarationsOf :
    (declarationsOf kind patterns lines file).Pairwise fun chunk later =>
      chunk.startLine < later.startLine := by
  refine pairwise_startLines ?_
  rintro ⟨line, index⟩ chunk hchunk
  obtain ⟨declaration, -, rfl⟩ := Option.map_eq_some_iff.mp hchunk
  rfl

theorem pairwise_startLines_importsOf :
    (importsOf lines file).Pairwise fun chunk later => chunk.startLine < later.startLine := by
  refine pairwise_startLines ?_
  rintro ⟨line, index⟩ chunk hchunk
  obtain ⟨-, hchunk⟩ := Option.ite_none_right_eq_some.mp hchunk
  obtain rfl := Option.some.inj hchunk
  rfl

end

/-- The kind of a chunk and the line on which it starts. -/
def place (chunk : Chunk) : String × Nat := (chunk.kind, chunk.startLine)

/-- A line has at most one chunk of each kind. -/
theorem nodup_places_lineChunksOf (file : FileInfo) (text : List Char) :
    ((lineChunksOf file text).map place).Nodup := by
  -- Within one kind the lines are different, and otherwise the kinds are.
  have hkinds : ∀ {found : List Chunk},
      (found.Pairwise fun chunk later => chunk.startLine < later.startLine) →
      (found.map place).Nodup := by
    intro found hlines
    rw [List.Nodup, List.pairwise_map]
    exact hlines.imp fun hlt heq => hlt.ne (Prod.mk.inj heq).2
  rw [lineChunksOf, List.map_append, List.map_append, List.nodup_append, List.nodup_append]
  refine ⟨⟨hkinds pairwise_startLines_declarationsOf, hkinds pairwise_startLines_declarationsOf,
    ?_⟩, hkinds pairwise_startLines_importsOf, ?_⟩
  · intro a ha b hb heq
    obtain ⟨chunk, hchunk, rfl⟩ := List.mem_map.mp ha
    obtain ⟨other, hother, rfl⟩ := List.mem_map.mp hb
    have hword := (Prod.mk.inj heq).1
    rw [kind_of_mem_declarationsOf hchunk, kind_of_mem_declarationsOf hother] at hword
    exact absurd hword (by decide)
  · intro a ha b hb heq
    obtain ⟨other, hother, rfl⟩ := List.mem_map.mp hb
    have hword := kind_of_mem_importsOf hother
    rcases List.mem_append.mp ha with ha | ha
    all_goals
      obtain ⟨chunk, hchunk, rfl⟩ := List.mem_map.mp ha
      rw [← (Prod.mk.inj heq).1, kind_of_mem_declarationsOf hchunk] at hword
      exact absurd hword (by decide)

/-! ## Chunks of several files -/

/-- The chunks of some files, each a path and a content, found line by line. -/
def lineChunksOfFiles (files : List (String × String)) : List Chunk :=
  files.flatMap fun file => lineChunks file.1 file.2

/-- The keys of the chunks of files with different paths are different. -/
theorem nodup_keys_lineChunksOfFiles {files : List (String × String)}
    (hpaths : (files.map fun file => Path.normalizeSeparators file.1).Nodup)
    (splitter : Splitter) : ((lineChunksOfFiles files).map (Chunk.key splitter)).Nodup := by
  -- A label can be read backwards, so the same key means the same path, kind and line.
  have hlabels : ∀ (file other : String × String) {chunk chunk' : Chunk},
      chunk ∈ lineChunks file.1 file.2 → chunk' ∈ lineChunks other.1 other.2 →
      chunk.key splitter = chunk'.key splitter →
      Path.normalizeSeparators file.1 = Path.normalizeSeparators other.1 ∧
        place chunk = place chunk' := by
    intro file other chunk chunk' hchunk hchunk' hkey
    obtain ⟨hfile, hkind, hname⟩ := mem_lineChunksOf hchunk
    obtain ⟨hfile', hkind', hname'⟩ := mem_lineChunksOf hchunk'
    rw [Chunk.key, Chunk.key, Prod.mk.injEq, Prod.mk.injEq,
      Chunk.label_eq_iff_of_names hkind hname hkind' hname', hfile, hfile'] at hkey
    obtain ⟨⟨hpath, hkinds, -⟩, hlines, -⟩ := hkey
    exact ⟨hpath, Prod.ext hkinds hlines⟩
  rw [lineChunksOfFiles, List.map_flatMap, List.nodup_flatMap]
  constructor
  · intro file _
    have hplaces := nodup_places_lineChunksOf (FileInfo.of file.1 file.2) file.2.toList
    rw [List.Nodup, List.pairwise_map] at hplaces ⊢
    exact hplaces.imp_of_mem fun hchunk hother hne hkey =>
      hne (hlabels file file hchunk hother hkey).2
  · rw [List.Nodup, List.pairwise_map] at hpaths
    refine hpaths.imp ?_
    intro file other hne key hkey hkey'
    obtain ⟨chunk, hchunk, rfl⟩ := List.mem_map.mp hkey
    obtain ⟨chunk', hchunk', heq⟩ := List.mem_map.mp hkey'
    exact hne (hlabels file other hchunk hchunk' heq.symm).1

end CodeSearch.Extract
