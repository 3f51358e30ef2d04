import CodeSearch.Description
import CodeSearch.Proofs.Indexing.Identifiers
import CodeSearch.Proofs.Purpose.Stability

/-!
# What a description says

A description has one line for each thing that it says, where the lines on which a chunk begins and
ends share one. A purpose never goes beyond its line, so if the path, the name and the kind of a
chunk do not either, the description can be taken apart again, whatever words stand in them.

- `Chunk.IsPlain`: nothing that a description quotes of the chunk has a line feed.
- `rows_describe`: the lines of a description.
- `describe_eq_iff`: when two descriptions are the same.
- `describe_determines`: both of it.
-/

namespace CodeSearch

/-- No text that a description quotes of the chunk has a line feed. -/
structure Chunk.IsPlain (chunk : Chunk) : Prop where
  path : '\n' ∉ chunk.file.path.toList
  name : '\n' ∉ chunk.name.toList
  kind : '\n' ∉ chunk.kind.toList

/-- The lines of the description of a part of a chunk. -/
def descriptionLines (chunk : Chunk) (part : String) : List String :=
  ["File: " ++ chunk.file.path,
   "Chunk Name: " ++ chunk.name,
   "Chunk Type: " ++ chunk.kind,
   "Start Line: " ++ (Text.decimal chunk.startLine ++ ", End Line: " ++ Text.decimal chunk.endLine),
   "Total Lines: " ++ Text.decimal chunk.file.totalLines,
   "Purpose: " ++ purposeOrDefault part]

variable {chunk first second : Chunk} {part other : String}

/-! ## Line feeds -/

/-- A purpose is a stretch of one line, and so is the text that stands for none. -/
theorem newline_not_mem_purposeOrDefault (code : String) :
    '\n' ∉ (purposeOrDefault code).toList := by
  rw [purposeOrDefault]
  cases hpurpose : purposeLine code with
  | none =>
    rw [Option.getD_none]
    decide +kernel
  | some purpose =>
    obtain ⟨-, -, line, hline, hstretch⟩ := purposeLine_spec hpurpose
    exact fun hmem => Text.newline_not_mem_of_mem_lines hline (hstretch.subset hmem)

theorem newline_not_mem_decimal (n : Nat) : '\n' ∉ (Text.decimal n).toList := by
  rw [Text.decimal, String.toList_ofList]
  exact Text.not_mem_decimalDigits rfl n

theorem newline_not_mem_descriptionLines (h : chunk.IsPlain) (part : String) :
    ∀ line ∈ descriptionLines chunk part, '\n' ∉ line.toList := by
  simp [descriptionLines, h.path, h.name, h.kind, newline_not_mem_decimal,
    newline_not_mem_purposeOrDefault]

/-! ## Taking a description apart -/

/-- Between any two lines of a description there is a line feed. -/
theorem describe_eq_intercalate (chunk : Chunk) (part : String) :
    describe chunk part = String.intercalate "\n" (descriptionLines chunk part) := by
  have hname : "\nChunk Name: " = "\n" ++ "Chunk Name: " := by decide
  have hkind : "\nChunk Type: " = "\n" ++ "Chunk Type: " := by decide
  have hstart : "\nStart Line: " = "\n" ++ "Start Line: " := by decide
  have htotal : "\nTotal Lines: " = "\n" ++ "Total Lines: " := by decide
  have hpurpose : "\nPurpose: " = "\n" ++ "Purpose: " := by decide
  unfold describe descriptionLines
  rewrite [hname, hkind, hstart, htotal, hpurpose]
  simp only [String.intercalate_cons_cons, String.intercalate_singleton, String.append_assoc]

theorem toList_describe (chunk : Chunk) (part : String) :
    (describe chunk part).toList =
      Text.joinRows ((descriptionLines chunk part).map String.toList) := by
  rewrite [describe_eq_intercalate, String.toList_intercalate]
  rfl

/-- The rows of a description are its six lines. -/
theorem rows_describe (h : chunk.IsPlain) (part : String) :
    Text.rows (describe chunk part).toList = (descriptionLines chunk part).map String.toList := by
  rw [toList_describe, Text.rows_joinRows (by simp [descriptionLines])]
  exact List.forall_mem_map.mpr (newline_not_mem_descriptionLines h part)

theorem length_rows_describe (h : chunk.IsPlain) (part : String) :
    (Text.rows (describe chunk part).toList).length = 6 := by
  rw [rows_describe h, List.length_map]
  rfl

/-- The last row is a line as well, since it is not empty. -/
theorem length_lines_describe (h : chunk.IsPlain) (part : String) :
    (Text.lines (describe chunk part).toList).length = 6 := by
  obtain ⟨parts, last, hrows⟩ := Text.exists_rows_eq_append (describe chunk part).toList
  have hlength := length_rows_describe h part
  have hlast : last ≠ [] := by
    have hmem : last ∈ Text.rows (describe chunk part).toList := hrows ▸ List.mem_concat_self
    rw [rows_describe h] at hmem
    obtain ⟨line, hline, rfl⟩ := List.mem_map.mp hmem
    rw [Ne, String.toList_eq_nil_iff]
    rintro rfl
    simp [descriptionLines] at hline
  rw [hrows, List.length_append] at hlength
  rw [Text.lines_of_rows hrows, if_neg hlast, List.length_append, List.length_map, hlength]

/-- The first numeral ends where the comma stands. -/
theorem lines_inj {a b m n : Nat}
    (h : Text.decimal a ++ ", End Line: " ++ Text.decimal b =
      Text.decimal m ++ ", End Line: " ++ Text.decimal n) : a = m ∧ b = n := by
  have hcomma : ", End Line: ".toList = ',' :: " End Line: ".toList := rfl
  have hlists := congrArg String.toList h
  simp only [String.toList_append, hcomma, Text.decimal, String.toList_ofList, List.append_assoc,
    List.cons_append] at hlists
  obtain ⟨hleft, hright⟩ := Text.append_cons_inj_first (Text.not_mem_decimalDigits rfl a)
    (Text.not_mem_decimalDigits rfl m) hlists
  exact ⟨Text.decimalDigits_inj hleft, Text.decimalDigits_inj (List.append_cancel_left hright)⟩

/-- Each line of a description begins with words of its own, so the rest of it can be read. -/
theorem descriptionLines_eq_iff :
    descriptionLines first part = descriptionLines second other ↔
      first.file.path = second.file.path ∧ first.name = second.name ∧ first.kind = second.kind ∧
      first.startLine = second.startLine ∧ first.endLine = second.endLine ∧
      first.file.totalLines = second.file.totalLines ∧
      purposeOrDefault part = purposeOrDefault other := by
  constructor
  · intro h
    simp only [descriptionLines, List.cons.injEq, String.append_right_inj, and_true] at h
    obtain ⟨hpath, hname, hkind, hrange, htotal, hpurpose⟩ := h
    obtain ⟨hstart, hend⟩ := lines_inj hrange
    exact ⟨hpath, hname, hkind, hstart, hend, Text.decimal_inj htotal, hpurpose⟩
  · rintro ⟨hpath, hname, hkind, hstart, hend, htotal, hpurpose⟩
    simp only [descriptionLines, hpath, hname, hkind, hstart, hend, htotal, hpurpose]

theorem describe_eq_iff (hfirst : first.IsPlain) (hsecond : second.IsPlain) :
    describe first part = describe second other ↔
      descriptionLines first part = descriptionLines second other := by
  constructor
  · intro h
    have hrows := rows_describe hsecond other
    rw [← h, rows_describe hfirst] at hrows
    exact List.map_injective_iff.mpr (fun _ _ => String.toList_inj.mp) hrows
  · intro h
    rw [describe_eq_intercalate, describe_eq_intercalate, h]

/-- A description of a chunk whose path, name and kind have no line feed has six lines. Two such
descriptions are the same if and only if the chunks have the same path, name, kind, first and last
line and file length, and the parts the same purpose. -/
theorem describe_determines (hfirst : first.IsPlain) (hsecond : second.IsPlain)
    (part other : String) :
    (Text.lines (describe first part).toList).length = 6 ∧
    (Text.rows (describe first part).toList).length = 6 ∧
    (describe first part = describe second other ↔
      first.file.path = second.file.path ∧ first.name = second.name ∧ first.kind = second.kind ∧
      first.startLine = second.startLine ∧ first.endLine = second.endLine ∧
      first.file.totalLines = second.file.totalLines ∧
      purposeOrDefault part = purposeOrDefault other) :=
  ⟨length_lines_describe hfirst part, length_rows_describe hfirst part,
    (describe_eq_iff hfirst hsecond).trans descriptionLines_eq_iff⟩

/-- Two chunks with words of the layout in a name and in a comment. The digits of their lines are
the same, and only the comma tells them apart. -/
theorem describe_determines_of_words :
    let file : FileInfo := FileInfo.of "a.ts" "// End Line: 3"
    let first : Chunk := Chunk.named "function" (some "f, End Line: 3") "" 1 23 "" file
    let second : Chunk := Chunk.named "function" (some "f, End Line: 3") "" 12 3 "" file
    first.IsPlain ∧ second.IsPlain ∧
      describe first "// End Line: 3" ≠ describe second "// End Line: 3" ∧
      (Text.lines (describe first "// End Line: 3").toList).length = 6 := by
  intro file first second
  have hpath : file.path = "a.ts" := by decide +kernel
  have hname : first.name = "f, End Line: 3" := by decide +kernel
  have hfirst : first.IsPlain := ⟨hpath ▸ by decide, hname ▸ by decide, by decide⟩
  have hsecond : second.IsPlain := ⟨hpath ▸ by decide, hname ▸ by decide, by decide⟩
  obtain ⟨hlines, -, hsame⟩ :=
    describe_determines hfirst hsecond "// End Line: 3" "// End Line: 3"
  refine ⟨hfirst, hsecond, fun h => ?_, hlines⟩
  obtain ⟨-, -, -, hstart, -⟩ := hsame.mp h
  cases hstart

/-- The range of a chunk takes one line, so there are not seven. -/
theorem describe_of_component :
    let file : FileInfo := ⟨"src/Text.tsx", "Text.tsx", 10, 19⟩
    let chunk : Chunk := ⟨"component", "Text", "// Styled text", 2, 8, "arrow_function", file⟩
    chunk.IsPlain ∧
      describe chunk chunk.code =
        "File: src/Text.tsx\nChunk Name: Text\nChunk Type: component\n" ++
          "Start Line: 2, End Line: 8\nTotal Lines: 10\nPurpose: Styled text" ∧
      (Text.lines (describe chunk chunk.code).toList).length ≠ 7 ∧
      (Text.rows (describe chunk chunk.code).toList).length ≠ 7 := by
  intro file chunk
  have hplain : chunk.IsPlain := ⟨by decide, by decide, by decide⟩
  refine ⟨hplain, by decide +kernel, ?_, ?_⟩
  · rw [length_lines_describe hplain]
    decide
  · rw [length_rows_describe hplain]
    decide

end CodeSearch
