import CodeSearch.Extract.SourceTree
import CodeSearch.Proofs.Extract.Units
import CodeSearch.Proofs.FileTree.Removal
import CodeSearch.Proofs.FileTree.SourceFiles

/-!
# Chunks of directories

Every source file below a directory either gives its chunks or is noted as failed, and which of the
two it is depends on this file alone: on its bytes, and for outlines on its path as well.

- `Chunker.chunkDirectory_eq`: the three lists of a directory, file by file.
- `Chunker.chunkFile_eq_error_iff`: the files that fail, and with which errors.
- `Chunker.fails_iff`, `Chunker.chunkFile_auto`: where every text has an outline, it is the path
  that tells which texts fail, and to which of the two others the automatic strategy comes down.
- `Chunker.Accounts`: all files are accounted for; `Chunker.accounts_chunkDirectory`.
- `SourceChunks.LeavesOut`: some files are left out; `Chunker.chunkDirectory_without`.
- `Chunker.chunkDirectory_partition`: all of it.
-/

namespace CodeSearch

/-- There is an outline of every text, whatever its language. -/
def Grammar.IsTotal (grammar : Grammar) : Prop :=
  ∀ language content, (grammar language content).isSome

/-- A file has an outline if there is a language for it. -/
theorem Grammar.IsTotal.outline?_eq_none_iff {grammar : Grammar} (h : grammar.IsTotal)
    {path content : String} :
    grammar.outline? path content = none ↔ Language.ofPath? path = none := by
  unfold outline?
  cases Language.ofPath? path with
  | none => simp
  | some language => simpa using Option.isSome_iff_ne_none.mp (h language content)

/-- Some files are left out, and nothing else changes. -/
structure SourceChunks.LeavesOut (left found : SourceChunks) : Prop where
  files : left.files = found.files.filter (fun path => path ∈ left.files)
  failed : left.failed = found.failed.filter (fun path => path ∈ left.files)
  chunks : left.chunks = found.chunks

namespace Chunker

/-- There is a grammar for the file. -/
def hasGrammar (path : String) : Bool :=
  (Language.ofPath? (Path.normalizeSeparators path)).isSome

/-- The file has no chunks because it fails. -/
def fails (chunker : Chunker) (system : FileSystem) (path : String) : Bool :=
  !(chunker.chunkFile system path).toBool

/-- The chunks that a file adds. -/
def chunksOf (chunker : Chunker) (system : FileSystem) (path : String) : List Chunk :=
  ((chunker.chunkFile system path).toOption).getD []

/-- Every file is noted as failed or adds its chunks, in the order of the files. A file fails if it
cannot be read as text, and for outlines also if there is no grammar for its path. -/
structure Accounts (chunker : Chunker) (system : FileSystem) (found : SourceChunks) : Prop where
  failed : found.failed = found.files.filter (chunker.fails system)
  fails_iff : ∀ path ∈ found.files, path ∈ found.failed ↔
    system.readText? path = none ∨ chunker.strategy = .outline ∧ hasGrammar path = false
  chunks : ∃ blocks,
    List.Forall₂ (fun path chunks => chunker.chunkFile system path = .ok chunks)
      (found.files.filter fun path => path ∉ found.failed) blocks ∧
    found.chunks = blocks.flatten

variable {chunker : Chunker} {system other : FileSystem} {root path : String}
  {extensions : List String}

/-! ## File by file -/

theorem fails_eq_true_iff :
    chunker.fails system path = true ↔
      ∃ error, chunker.chunkFile system path = .error error := by
  unfold fails
  cases chunker.chunkFile system path <;> simp [Except.toBool]

theorem chunksOf_of_fails (h : chunker.fails system path = true) :
    chunker.chunksOf system path = [] := by
  obtain ⟨error, hfile⟩ := fails_eq_true_iff.mp h
  rw [chunksOf, hfile]
  rfl

theorem chunkFile_of_not_fails (h : chunker.fails system path = false) :
    chunker.chunkFile system path = .ok (chunker.chunksOf system path) := by
  unfold fails at h
  unfold chunksOf
  cases hfile : chunker.chunkFile system path with
  | ok chunks => rfl
  | error error =>
    rw [hfile] at h
    cases h

/-- One more file is listed, and it is noted as failed or adds its chunks. -/
theorem add_chunkFile (chunker : Chunker) (system : FileSystem) (found : SourceChunks)
    (path : String) :
    found.add path (chunker.chunkFile system path) =
      { files := found.files ++ [path]
        failed := found.failed ++ [path].filter (chunker.fails system)
        chunks := found.chunks ++ chunker.chunksOf system path } := by
  cases hfails : chunker.fails system path with
  | true =>
    rw [chunksOf_of_fails hfails, List.filter_cons_of_pos hfails, List.append_nil]
    unfold fails at hfails
    cases hfile : chunker.chunkFile system path with
    | ok chunks =>
      rw [hfile] at hfails
      cases hfails
    | error error => rfl
  | false =>
    rw [chunkFile_of_not_fails hfails,
      List.filter_cons_of_neg (by rw [hfails]; exact Bool.false_ne_true), List.filter_nil,
      List.append_nil]
    rfl

/-- The files that fail are noted in order, and the chunks of the others follow each other. -/
theorem chunkDirectory_eq (chunker : Chunker) (system : FileSystem) (root : String)
    (extensions : List String) :
    chunker.chunkDirectory system root extensions =
      { files := system.sourceFiles extensions root
        failed := (system.sourceFiles extensions root).filter (chunker.fails system)
        chunks := (system.sourceFiles extensions root).flatMap (chunker.chunksOf system) } := by
  have hfold : ∀ (paths : List String) (found : SourceChunks),
      paths.foldl (fun found path => found.add path (chunker.chunkFile system path)) found =
        { files := found.files ++ paths
          failed := found.failed ++ paths.filter (chunker.fails system)
          chunks := found.chunks ++ paths.flatMap (chunker.chunksOf system) } := by
    intro paths
    induction paths with
    | nil => simp
    | cons path paths ih =>
      intro found
      rw [List.foldl_cons, ih, add_chunkFile]
      simp only [List.append_assoc, List.singleton_append, List.flatMap_cons, ← List.filter_append]
  exact hfold _ {}

/-! ## Which files fail -/

theorem hasGrammar_eq_false_iff :
    hasGrammar path = false ↔ Language.ofPath? (Path.normalizeSeparators path) = none := by
  rw [hasGrammar, Option.isSome_eq_false_iff, Option.isNone_iff_eq_none]

/-- A file fails if it cannot be read as text, or if its outline is asked for and there is no
grammar for it or the grammar makes no outline of it. The error names the file. -/
theorem chunkFile_eq_error_iff {error : ExtractError} :
    chunker.chunkFile system path = .error error ↔
      system.readText? path = none ∧ error = .unreadable (Path.normalizeSeparators path) ∨
      ∃ content, system.readText? path = some content ∧ chunker.strategy = .outline ∧
        (hasGrammar path = false ∧
            error = .unsupportedLanguage (Path.normalizeSeparators path) ∨
          hasGrammar path = true ∧
            chunker.grammar.outline? (Path.normalizeSeparators path) content = none ∧
            error = .parse (Path.normalizeSeparators path)) := by
  rw [← Bool.not_eq_false (hasGrammar path), hasGrammar_eq_false_iff, chunkFile]
  cases system.readText? path with
  | none => simp [eq_comm]
  | some content =>
    dsimp only
    rw [chunkText, Strategy.extract_eq_error_iff]
    simp

/-- Where every text has an outline, a file fails if its bytes are no text, and for outlines also if
there is no grammar for it. -/
theorem fails_iff (hgrammar : chunker.grammar.IsTotal) : chunker.fails system path = true ↔
    system.readText? path = none ∨
      chunker.strategy = .outline ∧ hasGrammar path = false := by
  simp only [fails_eq_true_iff, chunkFile_eq_error_iff, hgrammar.outline?_eq_none_iff,
    ← hasGrammar_eq_false_iff]
  cases system.readText? path <;> cases hasGrammar path <;> simp

/-! ## Strategies -/

/-- Where every text has an outline, the automatic strategy finds what the outline strategy finds
wherever there is a grammar, and what is found line by line wherever there is none. -/
theorem chunkFile_auto {grammar : Grammar} (hgrammar : grammar.IsTotal) (system : FileSystem)
    (path : String) :
    chunkFile { strategy := .auto, grammar } system path =
      chunkFile { strategy := if hasGrammar path then .outline else .lines, grammar } system
        path := by
  unfold chunkFile
  cases system.readText? path with
  | none => rfl
  | some content =>
    dsimp only
    rw [chunkText, chunkText]
    cases hpath : hasGrammar path with
    | false =>
      simp [Strategy.extract, Strategy.extractOutline, hasGrammar_eq_false_iff.mp hpath]
    | true =>
      obtain ⟨language, hlanguage⟩ := Option.isSome_iff_exists.mp hpath
      obtain ⟨outline, houtline⟩ : ∃ outline,
          grammar.outline? (Path.normalizeSeparators path) content = some outline := by
        rw [← Option.ne_none_iff_exists', Ne, hgrammar.outline?_eq_none_iff, hlanguage]
        exact Option.some_ne_none language
      simp [Strategy.extract, Strategy.extractOutline, hlanguage, houtline]

/-- A text with a grammar has the chunks of its outline. -/
theorem chunkFile_outline {grammar : Grammar} (hgrammar : grammar.IsTotal) {content : String}
    (hcontent : system.readText? path = some content) (hpath : hasGrammar path = true) :
    ∃ language outline, Language.ofPath? (Path.normalizeSeparators path) = some language ∧
      grammar language content = some outline ∧
      chunkFile { strategy := .outline, grammar } system path =
        .ok (Extract.outlineChunks (Path.normalizeSeparators path) content outline) := by
  obtain ⟨language, hlanguage⟩ := Option.isSome_iff_exists.mp hpath
  obtain ⟨outline, houtline⟩ := Option.isSome_iff_exists.mp (hgrammar language content)
  refine ⟨language, outline, hlanguage, houtline, ?_⟩
  have hfound : grammar.outline? (Path.normalizeSeparators path) content = some outline := by
    rw [Grammar.outline?, hlanguage]
    exact houtline
  unfold chunkFile
  rw [hcontent]
  dsimp only
  rw [chunkText, hfound, Strategy.extract, Strategy.extractOutline, hlanguage]

/-! ## Missing files -/

/-- What a file gives depends on what it is read as. -/
theorem chunkFile_congr (h : other.readText? path = system.readText? path) :
    chunker.chunkFile other path = chunker.chunkFile system path := by
  rw [chunkFile, chunkFile, h]

/-- A file that is left is read as before. -/
theorem readText?_without {gone : List String → Prop} (hproper : system.root.IsProper)
    (hother : other.root.IsProper) (hhere : other.here = system.here)
    (hwithout : system.root.IsWithout other.root gone) {place names : List String}
    (hsource : system.IsSourceAt extensions root place names) (hkept : ¬ gone (place ++ names)) :
    other.readText? (Path.below root names) = system.readText? (Path.below root names) := by
  cases hlength : FileSystem.isTooLong (Path.below root names) with
  | true =>
    rw [FileSystem.readText?_of_isTooLong hlength, FileSystem.readText?_of_isTooLong hlength]
  | false =>
    have hsource' := (FileSystem.isSourceAt_without_iff hhere hwithout).mpr ⟨hsource, hkept⟩
    obtain ⟨content, hkind, hread⟩ := hsource.readText? hproper hlength
    obtain ⟨content', hkind', hread'⟩ := hsource'.readText? hother hlength
    rw [hwithout.kept _ hkept, hkind] at hkind'
    cases hkind'
    rw [hread, hread']

/-- Items that give nothing can be left out. -/
theorem flatMap_filter_of_nil {α β : Type} {keep : α → Bool} {f : α → List β} {items : List α}
    (h : ∀ item ∈ items, keep item = false → f item = []) :
    (items.filter keep).flatMap f = items.flatMap f := by
  induction items with
  | nil => rfl
  | cons item items ih =>
    obtain ⟨hitem, hrest⟩ := List.forall_mem_cons.mp h
    rw [List.flatMap_cons, ← ih hrest]
    cases hkeep : keep item with
    | true => rw [List.filter_cons_of_pos hkeep, List.flatMap_cons]
    | false =>
      rw [List.filter_cons_of_neg (by rw [hkeep]; exact Bool.false_ne_true), hitem hkeep,
        List.nil_append]

/-- Files that fail can be missing: nothing else changes. -/
theorem chunkDirectory_without {gone : List String → Prop} (hproper : system.root.IsProper)
    (hother : other.root.IsProper) (hhere : other.here = system.here)
    (hwithout : system.root.IsWithout other.root gone)
    (hfailed : ∀ place names, system.IsSourceAt extensions root place names →
      gone (place ++ names) → chunker.fails system (Path.below root names) = true) :
    (chunker.chunkDirectory other root extensions).LeavesOut
      (chunker.chunkDirectory system root extensions) := by
  obtain ⟨hfiles, hplaces⟩ :=
    FileSystem.sourceFiles_without hproper hother hhere hwithout extensions root
  -- What is left is a source file of the whole file system, and it is read as before.
  have hmem : ∀ path ∈ other.sourceFiles extensions root,
      path ∈ system.sourceFiles extensions root := by
    intro path hpath
    rw [hfiles] at hpath
    exact (List.mem_filter.mp hpath).1
  have hsame : ∀ path ∈ other.sourceFiles extensions root,
      chunker.chunkFile other path = chunker.chunkFile system path := by
    intro path hpath
    obtain ⟨place, names, rfl, hsource, hkept⟩ := hplaces path (hmem path hpath)
    exact chunkFile_congr
      (readText?_without hproper hother hhere hwithout hsource (hkept.mp hpath))
  have hmissing : ∀ path ∈ system.sourceFiles extensions root,
      path ∉ other.sourceFiles extensions root → chunker.fails system path = true := by
    intro path hpath hnot
    obtain ⟨place, names, rfl, hsource, hkept⟩ := hplaces path hpath
    refine hfailed place names hsource ?_
    by_contra hgone
    exact hnot (hkept.mpr hgone)
  rw [chunkDirectory_eq, chunkDirectory_eq]
  refine ⟨hfiles, ?_, ?_⟩
  · show (other.sourceFiles extensions root).filter (chunker.fails other) = List.filter _
      ((system.sourceFiles extensions root).filter (chunker.fails system))
    rw [List.filter_comm, ← hfiles]
    refine List.filter_congr fun path hpath => ?_
    rw [fails, fails, hsame path hpath]
  · show (other.sourceFiles extensions root).flatMap (chunker.chunksOf other) =
      (system.sourceFiles extensions root).flatMap (chunker.chunksOf system)
    have hchunks : (other.sourceFiles extensions root).flatMap (chunker.chunksOf other) =
        (other.sourceFiles extensions root).flatMap (chunker.chunksOf system) := by
      refine List.flatMap_congr fun path hpath => ?_
      rw [chunksOf, chunksOf, hsame path hpath]
    rw [hchunks, hfiles]
    exact flatMap_filter_of_nil fun path hpath hnot => chunksOf_of_fails (hmissing path hpath
      (by simpa using hnot))

/-! ## Directories -/

/-- What is found in a directory accounts for all of its files. -/
theorem accounts_chunkDirectory (hgrammar : chunker.grammar.IsTotal) (system : FileSystem)
    (root : String) (extensions : List String) :
    chunker.Accounts system (chunker.chunkDirectory system root extensions) := by
  rw [chunkDirectory_eq]
  generalize system.sourceFiles extensions root = files
  have hmem : ∀ path ∈ files,
      path ∈ files.filter (chunker.fails system) ↔ chunker.fails system path = true := by
    intro path hpath
    rw [List.mem_filter, and_iff_right hpath]
  refine ⟨rfl, ?_, (files.filter fun path => !chunker.fails system path).map
    (chunker.chunksOf system), ?_, ?_⟩
  · intro path hpath
    exact (hmem path hpath).trans (fails_iff hgrammar)
  · have hfilter : (files.filter fun path => path ∉ files.filter (chunker.fails system)) =
        files.filter fun path => !chunker.fails system path := by
      refine List.filter_congr fun path hpath => ?_
      simp [hmem path hpath]
    rw [hfilter, List.forall₂_map_right_iff, List.forall₂_same]
    intro path hpath
    have hok := (List.mem_filter.mp hpath).2
    exact chunkFile_of_not_fails (by simpa using hok)
  · rw [← List.flatMap_def]
    exact (flatMap_filter_of_nil fun path _ hkeep =>
      chunksOf_of_fails (by simpa using hkeep)).symm

/-- What is found below a root accounts for all source files. A source file is read as what it
holds, unless its path is too long. The automatic strategy takes the outline of every file with a
grammar, reads all others line by line, and does not fail on a text. Files that fail do not matter
to the others: in a file system where some of them are missing and everything else is the same, all
other files are found, and the same chunks. -/
theorem chunkDirectory_partition (hgrammar : chunker.grammar.IsTotal)
    (hproper : system.root.IsProper) (root : String) (extensions : List String) :
    let found := chunker.chunkDirectory system root extensions
    let result strategy path := chunkFile { strategy, grammar := chunker.grammar } system path
    found.files = system.sourceFiles extensions root ∧
    chunker.Accounts system found ∧
    (∀ place names, system.IsSourceAt extensions root place names →
      FileSystem.isTooLong (Path.below root names) = false →
      ∃ content, system.root.kind? (place ++ names) = some (.file content) ∧
        system.readText? (Path.below root names) = content.text?) ∧
    (∀ path, result .auto path = if hasGrammar path then result .outline path
      else result .lines path) ∧
    (∀ path content, system.readText? path = some content →
      (∃ chunks, result .auto path = .ok chunks) ∧
      (hasGrammar path = true → ∃ language outline,
        Language.ofPath? (Path.normalizeSeparators path) = some language ∧
        chunker.grammar language content = some outline ∧
        result .outline path =
          .ok (Extract.outlineChunks (Path.normalizeSeparators path) content outline))) ∧
    ∀ (other : FileSystem) (gone : List String → Prop), other.root.IsProper →
      other.here = system.here → system.root.IsWithout other.root gone →
      (∀ place names, system.IsSourceAt extensions root place names → gone (place ++ names) →
        chunker.fails system (Path.below root names) = true) →
      let left := chunker.chunkDirectory other root extensions
      left.LeavesOut found ∧
      ∀ path ∈ found.files, ∃ place names,
        path = Path.below root names ∧ system.IsSourceAt extensions root place names ∧
        (path ∈ left.files ↔ ¬ gone (place ++ names)) := by
  intro found result
  have hfiles : found.files = system.sourceFiles extensions root := by
    rw [show found = _ from chunkDirectory_eq chunker system root extensions]
  refine ⟨hfiles, accounts_chunkDirectory hgrammar system root extensions, ?_, ?_, ?_, ?_⟩
  · exact fun place names hsource hlength => hsource.readText? hproper hlength
  · intro path
    refine (chunkFile_auto hgrammar system path).trans ?_
    cases hasGrammar path <;> rfl
  · intro path content hcontent
    refine ⟨?_, chunkFile_outline hgrammar hcontent⟩
    cases hresult : result .auto path with
    | ok chunks => exact ⟨chunks, rfl⟩
    | error error =>
      rcases chunkFile_eq_error_iff.mp hresult with ⟨hread, -⟩ | ⟨-, -, hstrategy, -⟩
      · rw [hcontent] at hread
        cases hread
      · cases hstrategy
  · intro other gone hother hhere hwithout hfailed left
    refine ⟨chunkDirectory_without hproper hother hhere hwithout hfailed, ?_⟩
    have hleft : left.files = other.sourceFiles extensions root := by
      rw [show left = _ from chunkDirectory_eq chunker other root extensions]
    rw [hfiles, hleft]
    exact (FileSystem.sourceFiles_without hproper hother hhere hwithout extensions root).2

/-- A directory holds some code and a file whose bytes are no text. The second file is noted as
failed, and the same is found in the directory without it. -/
theorem chunkDirectory_partition_of_invalid :
    let system : FileSystem :=
      { root := .directory [("b.ts", .file (.bytes [0xFF])),
          ("a.ts", .file (.bytes (Text.Utf8.bytes "f()")))] }
    let chunker : Chunker := { strategy := .lines, grammar := fun _ _ => some default }
    let found := chunker.chunkDirectory system "/" ["ts"]
    found.files = ["/a.ts", "/b.ts"] ∧ found.failed = ["/b.ts"] ∧
      (chunker.chunkDirectory (system.remove ["b.ts"]) "/" ["ts"]).LeavesOut found := by
  intro system chunker found
  have hgrammar : chunker.grammar.IsTotal := fun _ _ => rfl
  have hproper : system.root.IsProper := by
    refine .directory _ (by decide) (by decide) ?_
    exact List.forall_mem_cons.mpr ⟨.file _, List.forall_mem_singleton.mpr (.file _)⟩
  have hplace : system.resolve "/" = .existing [] system.root := by cbv
  have hfails : chunker.fails system "/b.ts" = true := by
    refine (fails_iff hgrammar).mpr (Or.inl ?_)
    cbv
  obtain ⟨hfiles, haccounts, -, -, -, hmissing⟩ :=
    chunkDirectory_partition hgrammar hproper "/" ["ts"]
  have hlist : found.files = ["/a.ts", "/b.ts"] := by
    refine hfiles.trans ?_
    cbv
  have hwithout : system.root.IsWithout (system.remove ["b.ts"]).root (· = ["b.ts"]) :=
    FileTree.isWithout_remove rfl (List.cons_ne_nil _ _)
  have hleft := hmissing (system.remove ["b.ts"]) (· = ["b.ts"])
    (hproper.remove (List.cons_ne_nil _ _)) rfl hwithout ?_
  · refine ⟨hlist, ?_, hleft.1⟩
    have hreads : chunker.fails system "/a.ts" = false := by
      rw [← Bool.not_eq_true, fails_iff hgrammar]
      have hcontent : (system.readText? "/a.ts").isSome = true := by cbv
      rintro (hread | ⟨hstrategy, -⟩)
      · rw [hread] at hcontent
        cases hcontent
      · cases hstrategy
    rw [haccounts.failed, hlist, List.filter_cons, List.filter_cons, hreads, hfails]
    rfl
  · intro place names hsource hgone
    obtain ⟨node, hresolve⟩ := hsource.reached
    rw [hplace] at hresolve
    cases hresolve
    rw [show names = ["b.ts"] from hgone]
    exact hfails

end Chunker

end CodeSearch
