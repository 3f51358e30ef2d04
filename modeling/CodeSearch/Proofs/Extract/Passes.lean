import CodeSearch.Proofs.Extract.Blocks
import CodeSearch.Proofs.Extract.LineChunks
import CodeSearch.Proofs.Text.Rows
import Mathlib.Order.CompletePartialOrder
import Mathlib.Order.Interval.Set.Basic

/-!
# The chunks of one kind

Functions, components and imports are found in one pass over the lines each. Here the passes are
compared with each other and with the lines.

- `lineChunksOfKind`: the chunks of one kind that are found in a file.
- `blockChunks_nested`: functions and components that open on their first lines lie within each
  other or apart.
- `passes_agree`: every component is a function as well, and the functions with a capital that are
  not methods are components.
- `lineChunks_lines`: the chunks of a kind follow the lines, the names are whole words of these
  lines, and the imports are the lines that start with the keyword.
-/

namespace CodeSearch

/-- The lines that a chunk covers. -/
def Chunk.lineRange (chunk : Chunk) : Set Nat := Set.Icc chunk.startLine chunk.endLine

namespace Extract

/-- The chunks of one kind that are found in a file line by line. -/
def lineChunksOfKind (kind : ChunkKind) (path content : String) : List Chunk :=
  (lineChunks path content).filter fun chunk => chunk.kind = kind.word

/-- The functions and the components that are found in a file line by line. -/
def blockChunks (path content : String) : List Chunk :=
  lineChunksOfKind .function path content ++ lineChunksOfKind .component path content

variable {path content : String}

/-! ## Passes -/

theorem filter_kind {kind own : ChunkKind} {found : List Chunk}
    (h : ∀ chunk ∈ found, chunk.kind = own.word) :
    found.filter (fun chunk => chunk.kind = kind.word) = if own = kind then found else [] := by
  have hword : own.word = kind.word ↔ own = kind := by
    cases own <;> cases kind <;> decide
  split
  · next heq =>
    exact List.filter_eq_self.mpr fun chunk hchunk => by simp [h chunk hchunk, heq]
  · next hne =>
    exact List.filter_eq_nil_iff.mpr fun chunk hchunk => by simp [h chunk hchunk, hword, hne]

theorem lineChunksOfKind_eq (kind : ChunkKind) (path content : String) :
    lineChunksOfKind kind path content =
      let lines := Text.rows content.toList
      let file := FileInfo.of path content
      match kind with
      | .function => declarationsOf .function functionPatterns lines file
      | .component => declarationsOf .component componentPatterns lines file
      | .importing => importsOf lines file := by
  rw [lineChunksOfKind, lineChunks, lineChunksOf, List.filter_append, List.filter_append,
    filter_kind fun _ => kind_of_mem_declarationsOf,
    filter_kind fun _ => kind_of_mem_declarationsOf, filter_kind fun _ => kind_of_mem_importsOf]
  cases kind <;> simp

/-- A function or a component is the chunk of a declaration. -/
theorem exists_of_mem_blockChunks {chunk : Chunk} (h : chunk ∈ blockChunks path content) :
    ∃ (kind : ChunkKind) (patterns : List LinePattern),
      (∀ pattern ∈ patterns, pattern.IsRegular) ∧ chunk ∈ declarationsOf kind patterns
        (Text.rows content.toList) (FileInfo.of path content) := by
  rw [blockChunks, lineChunksOfKind_eq, lineChunksOfKind_eq] at h
  rcases List.mem_append.mp h with h | h
  · exact ⟨.function, functionPatterns, isRegular_of_function, h⟩
  · exact ⟨.component, componentPatterns, isRegular_of_component, h⟩

/-! ## Blocks within blocks -/

/-- A function or a component starts on one of the lines and ends where its block ends. -/
theorem block_of_mem_blockChunks {chunk : Chunk} (h : chunk ∈ blockChunks path content) :
    chunk.startLine < (Text.rows content.toList).length ∧
      chunk.endLine = blockEnd (Text.rows content.toList) chunk.startLine := by
  obtain ⟨kind, patterns, -, hmem⟩ := exists_of_mem_blockChunks h
  obtain ⟨index, line, declaration, hline, -, rfl⟩ := mem_declarationsOf_iff.mp hmem
  exact ⟨(List.getElem?_eq_some_iff.mp hline).1, rfl⟩

/-- Of two blocks, the one that starts later and opens on its first line lies within the other one
or behind it. -/
theorem lineRange_nested {chunk later : Chunk} (hchunk : chunk ∈ blockChunks path content)
    (hlater : later ∈ blockChunks path content) (hle : chunk.startLine ≤ later.startLine)
    (hopens : OpensAt (Text.rows content.toList) later.startLine) :
    Disjoint chunk.lineRange later.lineRange ∨ later.lineRange ⊆ chunk.lineRange := by
  obtain ⟨-, hend⟩ := block_of_mem_blockChunks hchunk
  obtain ⟨hlt, hendLater⟩ := block_of_mem_blockChunks hlater
  by_cases hwithin : later.startLine ≤ chunk.endLine
  · refine Or.inr (Set.Icc_subset_Icc hle ?_)
    rw [hend] at hwithin ⊢
    rw [hendLater]
    exact blockEnd_le_blockEnd hle hlt ⟨_, le_refl _, hwithin, hopens⟩
  · refine Or.inl (Set.disjoint_left.mpr ?_)
    rintro row ⟨-, hrow⟩ ⟨hrowLater, -⟩
    omega

/-- A block that starts and opens within a block ends within it. So functions and components that
open on their first lines lie within each other or apart. -/
theorem blockChunks_nested :
    (∀ (lines : List (List Char)) (start inner : Nat), start ≤ inner → inner < lines.length →
      (∃ index, inner ≤ index ∧ index ≤ blockEnd lines start ∧ OpensAt lines index) →
      blockEnd lines inner ≤ blockEnd lines start) ∧
    ∀ (path content : String), ∀ chunk ∈ blockChunks path content,
      ∀ other ∈ blockChunks path content,
      OpensAt (Text.rows content.toList) chunk.startLine →
      OpensAt (Text.rows content.toList) other.startLine →
      Disjoint chunk.lineRange other.lineRange ∨ chunk.lineRange ⊆ other.lineRange ∨
        other.lineRange ⊆ chunk.lineRange := by
  refine ⟨fun lines start inner => blockEnd_le_blockEnd, ?_⟩
  intro path content chunk hchunk other hother hopens hotherOpens
  rcases le_total chunk.startLine other.startLine with hle | hle
  · rcases lineRange_nested hchunk hother hle hotherOpens with hapart | hwithin
    · exact Or.inl hapart
    · exact Or.inr (Or.inr hwithin)
  · rcases lineRange_nested hother hchunk hle hopens with hapart | hwithin
    · exact Or.inl hapart.symm
    · exact Or.inr (Or.inl hwithin)

/-- A component in a component, both of which open on their first lines. -/
theorem blockChunks_nested_of_two :
    let content := "function Outer() \x7b\n  const Inner = () => \x7b\n  \x7d\n\x7d\n"
    let lines := Text.rows content.toList
    ∃ outer ∈ blockChunks "a.js" content, ∃ inner ∈ blockChunks "a.js" content,
      (outer.startLine, outer.endLine) = (0, 3) ∧ (inner.startLine, inner.endLine) = (1, 2) ∧
      OpensAt lines outer.startLine ∧ OpensAt lines inner.startLine ∧
      blockEnd lines 1 ≤ blockEnd lines 0 ∧
      (Disjoint outer.lineRange inner.lineRange ∨ outer.lineRange ⊆ inner.lineRange ∨
        inner.lineRange ⊆ outer.lineRange) := by
  intro content lines
  obtain ⟨outer, houter, houterLines, houterOpens⟩ : ∃ outer ∈ blockChunks "a.js" content,
      (outer.startLine, outer.endLine) = (0, 3) ∧ OpensAt lines outer.startLine := by
    decide +kernel
  obtain ⟨inner, hinner, hinnerLines, hinnerOpens⟩ : ∃ inner ∈ blockChunks "a.js" content,
      (inner.startLine, inner.endLine) = (1, 2) ∧ OpensAt lines inner.startLine := by
    decide +kernel
  refine ⟨outer, houter, inner, hinner, houterLines, hinnerLines, houterOpens, hinnerOpens, ?_, ?_⟩
  · exact blockChunks_nested.1 lines 0 1 (by decide) (by decide +kernel)
      ⟨1, le_refl 1, by decide +kernel, by decide +kernel⟩
  · exact blockChunks_nested.2 "a.js" content outer houter inner hinner houterOpens hinnerOpens

/-! ## Functions and components -/

/-- Of chunks that start on later and later lines, one is the only one that starts on its line. -/
theorem filter_startLine {found : List Chunk} {chunk : Chunk}
    (hfound : found.Pairwise fun chunk later => chunk.startLine < later.startLine)
    (h : chunk ∈ found) :
    found.filter (fun other => other.startLine = chunk.startLine) = [chunk] := by
  induction found with
  | nil => cases h
  | cons first found ih =>
    obtain ⟨hfirst, hlater⟩ := List.pairwise_cons.mp hfound
    rcases List.mem_cons.mp h with rfl | hmem
    · have hnone : found.filter (fun other => other.startLine = chunk.startLine) = [] :=
        List.filter_eq_nil_iff.mpr fun other hother => by simp [(hfirst other hother).ne']
      simp [hnone]
    · rw [List.filter_cons_of_neg (by simpa using (hfirst chunk hmem).ne), ih hlater hmem]

/-- A word is no blank name. -/
theorem nameOr_of_isWordOf {name line : List Char} (h : IsWordOf name line) :
    Chunk.nameOr (some (String.ofList name)) = String.ofList name := by
  obtain ⟨hne, hname, -⟩ := h
  cases name with
  | nil => exact absurd rfl hne
  | cons c name =>
    have hc : Text.isBlank c = false := isBlank_of_isWord (hname c List.mem_cons_self)
    rw [Chunk.nameOr, String.toList_ofList, Text.isBlankText, List.all_cons, hc, Bool.false_and]
    rfl

/-- For every component there is one function that starts on the same line, it covers the same lines
and is not a method; and a function that is not a method and has a name with a capital is a
component as well. -/
theorem passes_agree (path content : String) :
    (∀ component ∈ lineChunksOfKind .component path content, ∃ function,
      (lineChunksOfKind .function path content).filter
        (fun chunk => chunk.startLine = component.startLine) = [function] ∧
      function.endLine = component.endLine ∧ function.code = component.code ∧
      function.nodeType ≠ methodType) ∧
    ∀ function ∈ lineChunksOfKind .function path content,
      function.nodeType = "function_declaration" ∨ function.nodeType = "arrow_function" →
      startsWithCapital function.name.toList = true →
      ∃ component ∈ lineChunksOfKind .component path content,
        component.startLine = function.startLine ∧ component.endLine = function.endLine ∧
        component.code = function.code := by
  simp only [lineChunksOfKind_eq]
  constructor
  · intro component hcomponent
    obtain ⟨index, line, declaration, hline, hdeclaration, rfl⟩ :=
      mem_declarationsOf_iff.mp hcomponent
    obtain ⟨function, hfunction, htype⟩ := exists_function_of_component hdeclaration
    refine ⟨blockChunk .function (Text.rows content.toList) (FileInfo.of path content) index
      function, ?_, rfl, rfl, htype⟩
    exact filter_startLine pairwise_startLines_declarationsOf
      (mem_declarationsOf_iff.mpr ⟨index, line, function, hline, hfunction, rfl⟩)
  · intro function hfunction htype hcapital
    obtain ⟨index, line, declaration, hline, hdeclaration, rfl⟩ :=
      mem_declarationsOf_iff.mp hfunction
    have hword := isWordOf_of_declaration? isRegular_of_function hdeclaration
    have hmethod : declaration.2 ≠ methodType := by
      rintro heq
      rcases htype with htype | htype <;> exact absurd (htype.symm.trans heq) (by decide)
    have hname : startsWithCapital declaration.1 = true := by
      change startsWithCapital (Chunk.nameOr (some (String.ofList declaration.1))).toList = true
        at hcapital
      rwa [nameOr_of_isWordOf hword, String.toList_ofList] at hcapital
    obtain ⟨component, hcomponent⟩ := exists_component_of_function hdeclaration hmethod hname
    exact ⟨_, mem_declarationsOf_iff.mpr ⟨index, line, component, hline, hcomponent, rfl⟩,
      rfl, rfl, rfl⟩

/-- An exported function with a capital is found by both passes. -/
theorem passes_agree_of_export :
    let content := "export default function Page() \x7b\n\x7d\n"
    ∃ component ∈ lineChunksOfKind .component "a.js" content,
      ∃ function ∈ lineChunksOfKind .function "a.js" content,
        component.nodeType = "default_export_component" ∧
        function.nodeType = "function_declaration" ∧
        startsWithCapital function.name.toList = true ∧
        (∃ found, (lineChunksOfKind .function "a.js" content).filter
            (fun chunk => chunk.startLine = component.startLine) = [found] ∧
          found.endLine = component.endLine ∧ found.code = component.code ∧
          found.nodeType ≠ methodType) ∧
        ∃ found ∈ lineChunksOfKind .component "a.js" content,
          found.startLine = function.startLine ∧ found.endLine = function.endLine ∧
          found.code = function.code := by
  intro content
  obtain ⟨component, hcomponent, hexport⟩ :
      ∃ component ∈ lineChunksOfKind .component "a.js" content,
        component.nodeType = "default_export_component" := by
    decide +kernel
  obtain ⟨function, hfunction, htype, hcapital⟩ :
      ∃ function ∈ lineChunksOfKind .function "a.js" content,
        function.nodeType = "function_declaration" ∧
        startsWithCapital function.name.toList = true := by
    decide +kernel
  obtain ⟨hcomponents, hfunctions⟩ := passes_agree "a.js" content
  exact ⟨component, hcomponent, function, hfunction, hexport, htype, hcapital,
    hcomponents component hcomponent, hfunctions function hfunction (Or.inl htype) hcapital⟩

/-! ## Chunks and lines -/

theorem pairwise_lineChunksOfKind (kind : ChunkKind) (path content : String) :
    (lineChunksOfKind kind path content).Pairwise fun chunk later =>
      chunk.startLine < later.startLine := by
  rw [lineChunksOfKind_eq]
  cases kind with
  | function => exact pairwise_startLines_declarationsOf
  | component => exact pairwise_startLines_declarationsOf
  | importing => exact pairwise_startLines_importsOf

/-- The name of a function or a component is a word of its first line. -/
theorem isWordOf_of_mem_blockChunks {chunk : Chunk} (h : chunk ∈ blockChunks path content) :
    ∃ line, (Text.rows content.toList)[chunk.startLine]? = some line ∧
      IsWordOf chunk.name.toList line ∧
      (chunk.nodeType = methodType → chunk.name ∉ controlWords) := by
  obtain ⟨kind, patterns, hpatterns, hmem⟩ := exists_of_mem_blockChunks h
  obtain ⟨index, line, declaration, hline, hdeclaration, rfl⟩ := mem_declarationsOf_iff.mp hmem
  have hword := isWordOf_of_declaration? hpatterns hdeclaration
  have hname : (blockChunk kind (Text.rows content.toList) (FileInfo.of path content) index
      declaration).name = String.ofList declaration.1 := nameOr_of_isWordOf hword
  refine ⟨line, hline, ?_, ?_⟩
  · rwa [hname, String.toList_ofList]
  · rw [hname]
    exact (exists_of_declaration? hdeclaration).2

theorem startsWithCapital_of_mem {chunk : Chunk}
    (h : chunk ∈ lineChunksOfKind .component path content) :
    startsWithCapital chunk.name.toList = true := by
  rw [lineChunksOfKind_eq] at h
  obtain ⟨index, line, declaration, -, hdeclaration, rfl⟩ := mem_declarationsOf_iff.mp h
  have hword := isWordOf_of_declaration? isRegular_of_component hdeclaration
  show startsWithCapital (Chunk.nameOr (some (String.ofList declaration.1))).toList = true
  rw [nameOr_of_isWordOf hword, String.toList_ofList]
  exact startsWithCapital_of_component hdeclaration

/-- The chunks of each kind start on later and later lines. The name of a function or a component is
a word of its first line that is not part of a longer one, for a method it is no control keyword,
and for a component it starts with a capital. The imports are the lines that start, up to blanks,
with the keyword and a blank. -/
theorem lineChunks_lines (path content : String) :
    (∀ kind, (lineChunksOfKind kind path content).Pairwise fun chunk later =>
      chunk.startLine < later.startLine) ∧
    (∀ chunk ∈ blockChunks path content, ∃ line,
      (Text.rows content.toList)[chunk.startLine]? = some line ∧
      IsWordOf chunk.name.toList line ∧
      (chunk.nodeType = methodType → chunk.name ∉ controlWords)) ∧
    (∀ chunk ∈ lineChunksOfKind .component path content,
      startsWithCapital chunk.name.toList = true) ∧
    ∀ chunk, chunk ∈ lineChunksOfKind .importing path content ↔
      ∃ row line, (Text.rows content.toList)[row]? = some line ∧
        (∃ c rest, Text.trim line = "import".toList ++ c :: rest ∧ Text.isBlank c = true) ∧
        chunk = { kind := "import", name := "unnamed", code := String.ofList (Text.trim line),
                  startLine := row, endLine := row, nodeType := "import_statement",
                  file := FileInfo.of path content } := by
  refine ⟨fun kind => pairwise_lineChunksOfKind kind path content,
    fun chunk => isWordOf_of_mem_blockChunks, fun chunk => startsWithCapital_of_mem, ?_⟩
  intro chunk
  rw [lineChunksOfKind_eq, mem_importsOf_iff]
  constructor
  · rintro ⟨row, line, hline, himport, rfl⟩
    have hfeed := Text.newline_not_mem_of_mem_rows (List.mem_of_getElem? hline)
    exact ⟨row, line, hline, (isImport_iff (Text.not_mem_trim hfeed)).mp himport, rfl⟩
  · rintro ⟨row, line, hline, himport, rfl⟩
    have hfeed := Text.newline_not_mem_of_mem_rows (List.mem_of_getElem? hline)
    exact ⟨row, line, hline, (isImport_iff (Text.not_mem_trim hfeed)).mpr himport, rfl⟩

/-- An import that ends with a carriage return, a method and a component. -/
theorem lineChunks_lines_of_three :
    let content := "\timport a from 'b';\r\n  save(x) \x7b\n  \x7d\nfunction Page() \x7b\x7d\n"
    ∃ method ∈ blockChunks "a.js" content, ∃ component ∈ lineChunksOfKind .component "a.js" content,
      ∃ imported ∈ lineChunksOfKind .importing "a.js" content,
        method.nodeType = methodType ∧
        (∃ line, (Text.rows content.toList)[method.startLine]? = some line ∧
          IsWordOf method.name.toList line ∧
          (method.nodeType = methodType → method.name ∉ controlWords)) ∧
        startsWithCapital component.name.toList = true ∧ imported.code = "import a from 'b';" ∧
        imported.startLine = 0 ∧ imported.endLine = 0 := by
  intro content
  obtain ⟨method, hmethod, htype⟩ : ∃ method ∈ blockChunks "a.js" content,
      method.nodeType = methodType := by
    decide +kernel
  obtain ⟨component, hcomponent⟩ : ∃ component,
      component ∈ lineChunksOfKind .component "a.js" content :=
    List.exists_mem_of_ne_nil _ (by decide +kernel)
  obtain ⟨-, hnames, hcapitals, himports⟩ := lineChunks_lines "a.js" content
  refine ⟨method, hmethod, component, hcomponent, _,
    (himports _).mpr ⟨0, "\timport a from 'b';\r".toList, ?_,
      ⟨' ', "a from 'b';".toList, ?_, ?_⟩, rfl⟩,
    htype, hnames method hmethod, hcapitals component hcomponent, ?_, rfl, rfl⟩
  all_goals decide +kernel

end Extract

end CodeSearch
