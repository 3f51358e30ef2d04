import CodeSearch.Extract.Strategy
import CodeSearch.Proofs.Extract.Blocks
import CodeSearch.Proofs.Extract.PartTexts

/-!
# Chunks and the lines they cover

Chunks are found in an outline or line by line, and mean the same in either case: a stretch of the
file, and the lines on which it starts and ends.

- `Chunk.IsUnitOf`: what a chunk says of a file is true of it.
- `Extract.areUnitsOf_lineChunks`, `Extract.areUnitsOf_outlineChunks`: it is for the chunks of the
  two ways.
- `Strategy.extract_ok`: which of the two ways a strategy goes.
- `Strategy.extract_units`: all of it, for every strategy.
-/

namespace CodeSearch

open Text (StandsAt)

/-! ## Units of a file -/

/-- What a chunk says of the file with the given path and content is true of it: its code is a
stretch of the content which starts and ends on the lines that it says, all of them lines of the
file, and it goes by some name. -/
structure Chunk.IsUnitOf (path content : String) (chunk : Chunk) : Prop where
  ordered : chunk.startLine ≤ chunk.endLine
  bounded : chunk.endLine < chunk.file.totalLines
  stretch : ∃ before after, content.toList = before ++ chunk.code.toList ++ after ∧
    before.count '\n' = chunk.startLine
  lineFeeds : chunk.code.toList.count '\n' = chunk.endLine - chunk.startLine
  named : Text.isBlankText chunk.name.toList = false
  file : chunk.file = FileInfo.of path content

/-- A chunk with the name of a chunk is a unit if its code starts and ends where it says. -/
theorem Chunk.isUnitOf_named {path content : String} {kind code nodeType : String}
    {name : Option String} {startLine endLine : Nat}
    (hcode : StandsAt content.toList startLine code.toList)
    (hend : endLine = startLine + code.toList.count '\n') :
    (Chunk.named kind name code startLine endLine nodeType
      (FileInfo.of path content)).IsUnitOf path content where
  ordered := by
    show startLine ≤ endLine
    omega
  bounded := by
    show endLine < (Text.rows content.toList).length
    rw [hend]
    exact hcode.add_count_lt
  stretch := hcode
  lineFeeds := by
    show code.toList.count '\n' = endLine - startLine
    omega
  named := Chunk.nameOr_not_blank name
  file := rfl

namespace Extract

/-- The lines that a chunk covers make up its code. -/
def CoversLines (text : List Char) (chunk : Chunk) : Prop :=
  Text.rows chunk.code.toList =
    ((Text.rows text).drop chunk.startLine).take (chunk.endLine + 1 - chunk.startLine)

/-- The line on which a chunk starts, without its blank ends, is its code. -/
def IsTrimmedLine (text : List Char) (chunk : Chunk) : Prop :=
  ∃ line, (Text.rows text)[chunk.startLine]? = some line ∧ chunk.code.toList = Text.trim line

/-- Units of a file, by their kinds. -/
structure AreUnitsOf (path content : String) (functions components imports : List Chunk) :
    Prop where
  units : ∀ chunk ∈ functions ++ components ++ imports, chunk.IsUnitOf path content
  functions : ∀ chunk ∈ functions, chunk.kind = ChunkKind.function.word
  components : ∀ chunk ∈ components, chunk.kind = ChunkKind.component.word
  imports : ∀ chunk ∈ imports, chunk.kind = ChunkKind.importing.word

theorem AreUnitsOf.of_forall {path content : String} {functions components imports : List Chunk}
    (hfunctions : ∀ chunk ∈ functions,
      chunk.IsUnitOf path content ∧ chunk.kind = ChunkKind.function.word)
    (hcomponents : ∀ chunk ∈ components,
      chunk.IsUnitOf path content ∧ chunk.kind = ChunkKind.component.word)
    (himports : ∀ chunk ∈ imports,
      chunk.IsUnitOf path content ∧ chunk.kind = ChunkKind.importing.word) :
    AreUnitsOf path content functions components imports where
  units := by
    intro chunk hchunk
    rcases List.mem_append.mp hchunk with hchunk | hchunk
    · rcases List.mem_append.mp hchunk with hchunk | hchunk
      · exact (hfunctions chunk hchunk).1
      · exact (hcomponents chunk hchunk).1
    · exact (himports chunk hchunk).1
  functions := fun chunk hchunk => (hfunctions chunk hchunk).2
  components := fun chunk hchunk => (hcomponents chunk hchunk).2
  imports := fun chunk hchunk => (himports chunk hchunk).2

variable {path content : String} {chunk : Chunk}

/-! ## Chunks found line by line -/

section

variable {kind : ChunkKind} {patterns : List LinePattern}

/-- Some lines of a text, taken together, can be told apart again. -/
theorem rows_linesText {text : List Char} {first last : Nat} (hle : first ≤ last)
    (hlast : last < (Text.rows text).length) :
    Text.rows (linesText (Text.rows text) first last).toList =
      ((Text.rows text).drop first).take (last + 1 - first) := by
  rw [linesText, String.toList_ofList]
  refine Text.rows_joinRows ?_ fun row hrow =>
    Text.newline_not_mem_of_mem_rows (List.mem_of_mem_drop (List.mem_of_mem_take hrow))
  rw [← List.length_pos_iff, List.length_take, List.length_drop]
  omega

/-- The chunk of a declaration covers the lines of its block. -/
theorem isUnitOf_declarationsOf
    (h : chunk ∈
      declarationsOf kind patterns (Text.rows content.toList) (FileInfo.of path content)) :
    (chunk.IsUnitOf path content ∧ chunk.kind = kind.word) ∧
      CoversLines content.toList chunk := by
  obtain ⟨⟨line, index⟩, hindex, hchunk⟩ := List.mem_filterMap.mp h
  obtain ⟨declaration, -, rfl⟩ := Option.map_eq_some_iff.mp hchunk
  obtain ⟨hle, hlast⟩ := blockEnd_bounds (List.mem_zipIdx' hindex).1
  have hrows := rows_linesText hle hlast
  refine ⟨⟨Chunk.isUnitOf_named ?_ ?_, rfl⟩, hrows⟩
  · rw [linesText, String.toList_ofList]
    exact Text.standsAt_joinRows hle hlast
  · -- There is one line feed less than there are lines.
    have hlength := congrArg List.length hrows
    rw [Text.length_rows, List.length_take, List.length_drop] at hlength
    omega

/-- The chunk of an import is a line without its blank ends. -/
theorem isUnitOf_importsOf
    (h : chunk ∈ importsOf (Text.rows content.toList) (FileInfo.of path content)) :
    (chunk.IsUnitOf path content ∧ chunk.kind = ChunkKind.importing.word) ∧
      IsTrimmedLine content.toList chunk := by
  obtain ⟨⟨line, index⟩, hindex, hchunk⟩ := List.mem_filterMap.mp h
  obtain ⟨-, hchunk⟩ := Option.ite_none_right_eq_some.mp hchunk
  obtain rfl := Option.some.inj hchunk
  have hget : (Text.rows content.toList)[index]? = some line :=
    List.mk_mem_zipIdx_iff_getElem?.mp hindex
  have hline := Text.newline_not_mem_of_mem_rows (List.mem_of_getElem? hget)
  have hcode := String.toList_ofList (l := Text.trim line)
  refine ⟨⟨Chunk.isUnitOf_named ?_ ?_, rfl⟩, ⟨line, hget, hcode⟩⟩
  · rw [hcode]
    exact (Text.standsAt_of_getElem? hget).trim hline
  · rw [hcode, List.count_eq_zero.mpr (Text.not_mem_trim hline), Nat.add_zero]

/-- What is found line by line in a file are units of it. -/
theorem areUnitsOf_lineChunks (path content : String) :
    ∃ functions components imports,
      lineChunks path content = functions ++ components ++ imports ∧
      AreUnitsOf path content functions components imports ∧
      (∀ chunk ∈ functions ++ components, CoversLines content.toList chunk) ∧
      ∀ chunk ∈ imports, IsTrimmedLine content.toList chunk := by
  refine ⟨_, _, _, rfl, .of_forall ?_ ?_ ?_, ?_, ?_⟩
  · exact fun chunk hchunk => (isUnitOf_declarationsOf hchunk).1
  · exact fun chunk hchunk => (isUnitOf_declarationsOf hchunk).1
  · exact fun chunk hchunk => (isUnitOf_importsOf hchunk).1
  · intro chunk hchunk
    rcases List.mem_append.mp hchunk with hchunk | hchunk
    · exact (isUnitOf_declarationsOf hchunk).2
    · exact (isUnitOf_declarationsOf hchunk).2
  · exact fun chunk hchunk => (isUnitOf_importsOf hchunk).2

end

/-! ## Chunks found in an outline -/

section

variable {outline part : Outline}

/-- The chunk of a part that fits is a unit. -/
theorem isUnitOf_partChunk (h : part.span.Fits content.toList) (kind : ChunkKind)
    (name : Option String) :
    (partChunk kind name content.toList (FileInfo.of path content) part).IsUnitOf path content :=
  Chunk.isUnitOf_named (standsAt_partText h).1 (standsAt_partText h).2

/-- The component that a declaration defines is the declaration, or the value in it. -/
theorem within_of_componentOf? {source : List Char} {declaration : Outline} {name : String}
    (h : componentOf? source declaration = some (name, part)) : declaration.Within part := by
  rw [componentOf?] at h
  split at h
  · cases h
  · split at h
    · cases h
    · split at h
      · -- A variable: the part is its value.
        split at h
        · next value hvalue =>
          obtain ⟨-, hfound⟩ := Option.ite_none_right_eq_some.mp h
          cases hfound
          exact Outline.Within.self.child (Outline.mem_children_of_child? hvalue)
        · cases h
      · split at h
        · obtain ⟨-, hfound⟩ := Option.ite_none_right_eq_some.mp h
          cases hfound
          exact .self
        · cases h
          exact .self

theorem isUnitOf_componentsOf (h : outline.Fits content.toList)
    (hchunk : chunk ∈ componentsOf content.toList (FileInfo.of path content) outline) :
    chunk.IsUnitOf path content ∧ chunk.kind = ChunkKind.component.word := by
  obtain ⟨site, hsite, hfound⟩ := List.mem_filterMap.mp hchunk
  obtain ⟨⟨name, part⟩, hcomponent, rfl⟩ := Option.map_eq_some_iff.mp hfound
  refine ⟨isUnitOf_partChunk (h part ?_) _ _, rfl⟩
  exact (Site.within_of_mem_collect hsite).trans (within_of_componentOf? hcomponent)

/-- What is found in the outline of a file are units of the file. -/
theorem areUnitsOf_outlineChunks (path : String) (h : outline.Fits content.toList) :
    ∃ functions components imports,
      outlineChunks path content outline = functions ++ components ++ imports ∧
      AreUnitsOf path content functions components imports := by
  refine ⟨_, _, _, rfl, .of_forall ?_ ?_ ?_⟩
  · intro chunk hchunk
    obtain ⟨site, hsite, rfl⟩ := List.mem_map.mp hchunk
    exact ⟨isUnitOf_partChunk (h _ (Site.within_of_mem_collect hsite)) _ _, rfl⟩
  · exact fun chunk hchunk => isUnitOf_componentsOf h hchunk
  · intro chunk hchunk
    obtain ⟨site, hsite, rfl⟩ := List.mem_map.mp hchunk
    exact ⟨isUnitOf_partChunk (h _ (Site.within_of_mem_collect hsite)) _ _, rfl⟩

end

end Extract

/-! ## Every strategy -/

namespace Strategy

open Extract (AreUnitsOf CoversLines IsTrimmedLine)

/-- The chunks of an outline are found if there is a language for the file, and the outline. -/
theorem extractOutline_eq_ok_iff {path content : String} {outline : Option Outline}
    {chunks : List Chunk} :
    extractOutline path content outline = .ok chunks ↔
      Language.ofPath? path ≠ none ∧
        ∃ whole, outline = some whole ∧ chunks = Extract.outlineChunks path content whole := by
  unfold extractOutline
  cases Language.ofPath? path <;> cases outline <;> simp [eq_comm]

/-- Only where an outline is asked for no chunks may be found. The error names the file. -/
theorem extract_eq_error_iff {strategy : Strategy} {path content : String}
    {outline : Option Outline} {error : ExtractError} :
    strategy.extract path content outline = .error error ↔
      strategy = .outline ∧
        (Language.ofPath? path = none ∧ error = .unsupportedLanguage path ∨
          Language.ofPath? path ≠ none ∧ outline = none ∧ error = .parse path) := by
  unfold extract extractOutline
  cases strategy <;> cases Language.ofPath? path <;> cases outline <;> simp [eq_comm]

/-- The chunks of a file are those of its outline, or they are found line by line. The automatic
strategy goes the second way only if it cannot go the first one. -/
theorem extract_ok {strategy : Strategy} {path content : String} {outline : Option Outline}
    {chunks : List Chunk} (h : strategy.extract path content outline = .ok chunks) :
    (strategy ≠ .lines ∧ Language.ofPath? path ≠ none ∧
      ∃ whole, outline = some whole ∧ chunks = Extract.outlineChunks path content whole) ∨
    (strategy = .lines ∨ strategy = .auto ∧ (Language.ofPath? path = none ∨ outline = none)) ∧
      chunks = Extract.lineChunks path content := by
  cases strategy with
  | lines => exact .inr ⟨.inl rfl, (Except.ok.inj h).symm⟩
  | outline => exact .inl ⟨by decide, extractOutline_eq_ok_iff.mp h⟩
  | auto =>
    rw [extract] at h
    cases hfound : extractOutline path content outline with
    | ok found =>
      rw [hfound] at h
      obtain rfl := Except.ok.inj h
      exact .inl ⟨by decide, extractOutline_eq_ok_iff.mp hfound⟩
    | error error =>
      rw [hfound] at h
      refine .inr ⟨.inr ⟨rfl, ?_⟩, (Except.ok.inj h).symm⟩
      by_contra! hgiven
      obtain ⟨hlanguage, houtline⟩ := hgiven
      obtain ⟨whole, hwhole⟩ := Option.ne_none_iff_exists'.mp houtline
      rw [extractOutline_eq_ok_iff.mpr ⟨hlanguage, whole, hwhole, rfl⟩] at hfound
      cases hfound

/-- Whichever way chunks are found in a file, what they say of it is true, given that an outline
which is looked at is one of the file; and functions come first, then components, then imports.
Unless they are those of an outline, functions and components are whole lines, and imports are lines
without their blank ends. -/
theorem extract_units {strategy : Strategy} {path content : String} {outline : Option Outline}
    {chunks : List Chunk}
    (houtline : strategy ≠ .lines → ∀ whole ∈ outline, whole.Fits content.toList)
    (h : strategy.extract path content outline = .ok chunks) :
    ∃ functions components imports, chunks = functions ++ components ++ imports ∧
      AreUnitsOf path content functions components imports ∧
      (strategy = .lines ∨ Language.ofPath? path = none ∨ outline = none →
        (∀ chunk ∈ functions ++ components, CoversLines content.toList chunk) ∧
        ∀ chunk ∈ imports, IsTrimmedLine content.toList chunk) := by
  rcases extract_ok h with ⟨hstrategy, hlanguage, whole, rfl, rfl⟩ | ⟨-, rfl⟩
  · obtain ⟨functions, components, imports, hchunks, hunits⟩ :=
      Extract.areUnitsOf_outlineChunks path (houtline hstrategy whole rfl)
    refine ⟨functions, components, imports, hchunks, hunits, ?_⟩
    rintro (hlines | hlines | hlines)
    · exact absurd hlines hstrategy
    · exact absurd hlines hlanguage
    · cases hlines
  · obtain ⟨functions, components, imports, hchunks, hunits, hlines⟩ :=
      Extract.areUnitsOf_lineChunks path content
    exact ⟨functions, components, imports, hchunks, hunits, fun _ => hlines⟩

/-- A component on two lines is a function as well, and both chunks have its name. -/
theorem extract_units_of_component :
    let content := "const A = () => \x7b\n\x7d\n"
    let arrow : Outline := .node "arrow_function" (some "value") ⟨10, 19, 0, 1⟩ []
    let name : Outline := .node "identifier" (some "name") ⟨6, 7, 0, 0⟩ []
    let declarator : Outline :=
      .node "variable_declarator" none ⟨6, 19, 0, 1⟩ [name, arrow]
    let outline : Outline := .node "program" none ⟨0, 20, 0, 2⟩ [declarator]
    outline.Fits content.toList ∧ ∃ function component,
      Strategy.auto.extract "a.js" content outline = .ok [function, component] ∧
      function.IsUnitOf "a.js" content ∧ component.IsUnitOf "a.js" content ∧
      function.code = component.code ∧ (component.startLine, component.endLine) = (0, 1) := by
  intro content arrow name declarator outline
  have hplace : ∀ offset row taken, Text.Utf8.size (content.toList.take taken) = offset →
      (content.toList.take taken).count '\n' = row → IsPlace content.toList offset row :=
    fun offset row taken hsize hrow =>
      ⟨_, _, (List.take_append_drop taken content.toList).symm, hsize, hrow⟩
  have hstart := hplace 0 0 0 (by decide) (by decide)
  have hname := hplace 6 0 6 (by decide) (by decide)
  have hnameEnd := hplace 7 0 7 (by decide) (by decide)
  have harrow := hplace 10 0 10 (by decide) (by decide)
  have hbrace := hplace 19 1 19 (by decide) (by decide)
  have hend := hplace 20 2 20 (by decide) (by decide)
  have hfits : outline.Fits content.toList := by
    refine Outline.fits_iff.mpr ⟨⟨by decide, hstart, hend⟩, List.forall_mem_singleton.mpr ?_⟩
    refine Outline.fits_iff.mpr ⟨⟨by decide, hname, hbrace⟩, List.forall_mem_cons.mpr ⟨?_, ?_⟩⟩
    · exact Outline.fits_iff.mpr ⟨⟨by decide, hname, hnameEnd⟩, List.forall_mem_nil _⟩
    · refine List.forall_mem_singleton.mpr ?_
      exact Outline.fits_iff.mpr ⟨⟨by decide, harrow, hbrace⟩, List.forall_mem_nil _⟩
  let function := Chunk.named "function" (some "A") "() => \x7b\n\x7d" 0 1 "arrow_function"
    (FileInfo.of "a.js" content)
  have hextract : Strategy.auto.extract "a.js" content outline =
      .ok [function, { function with kind := "component" }] := by
    decide +kernel
  obtain ⟨functions, components, imports, hchunks, hunits, -⟩ := extract_units
    (fun _ whole hwhole => by cases hwhole; exact hfits) hextract
  refine ⟨hfits, _, _, hextract, ?_, ?_, rfl, rfl⟩
  · exact hunits.units _ (hchunks ▸ List.mem_cons_self)
  · exact hunits.units _ (hchunks ▸ List.mem_cons_of_mem _ List.mem_cons_self)

end Strategy

end CodeSearch
