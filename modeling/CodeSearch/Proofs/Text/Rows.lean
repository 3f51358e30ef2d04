import CodeSearch.Text.Blank
import CodeSearch.Text.Lines
import Mathlib.Data.List.DropRight
import Mathlib.Data.List.TakeDrop

/-!
# Rows of a text

A text is its rows with a line feed between any two, and some rows that follow each other are a
stretch of the text. The row on which a stretch starts is the number of line feeds before it.

- `joinRows_rows`, `rows_joinRows`: taking a text apart and putting it together.
- `lines_of_rows`: the rows that are lines.
- `StandsAt`: a stretch of a text and the row on which it starts.
- `standsAt_joinRows`: the stretch of some rows that follow each other.
- `StandsAt.trim`: the stretch without its blank ends.
-/

namespace CodeSearch.Text

/-! ## Taking apart and putting together -/

theorem consRow_eq_modifyHead {c : Char} {parts : List (List Char)} (h : parts ≠ []) :
    consRow c parts = parts.modifyHead (List.cons c) := by
  cases parts with
  | nil => exact absurd rfl h
  | cons row parts => rfl

theorem rows_eq_splitOn (text : List Char) : rows text = text.splitOn '\n' := by
  induction text with
  | nil => rfl
  | cons c text ih =>
    rw [rows_cons, List.splitOn_cons_eq_if_modifyHead, ih]
    by_cases hc : c = '\n'
    · rw [if_pos hc, if_pos (beq_iff_eq.mpr hc)]
    · rw [if_neg hc, if_neg (by simpa using hc),
        consRow_eq_modifyHead (List.splitOn_ne_nil '\n' text)]

/-- The rows of a text make up the text. -/
theorem joinRows_rows (text : List Char) : joinRows (rows text) = text := by
  rw [rows_eq_splitOn]
  exact List.intercalate_splitOn '\n'

/-- Rows that were put together can be taken apart. -/
theorem rows_joinRows {parts : List (List Char)} (hparts : parts ≠ [])
    (hrows : ∀ row ∈ parts, '\n' ∉ row) : rows (joinRows parts) = parts := by
  rw [rows_eq_splitOn]
  exact List.splitOn_intercalate '\n' hrows hparts

/-- There is a line feed between any two rows. -/
theorem count_joinRows {parts : List (List Char)} (hparts : parts ≠ [])
    (hrows : ∀ row ∈ parts, '\n' ∉ row) : (joinRows parts).count '\n' + 1 = parts.length := by
  rw [← length_rows, rows_joinRows hparts hrows]

theorem joinRows_append {first last : List (List Char)} (hfirst : first ≠ []) (hlast : last ≠ []) :
    joinRows (first ++ last) = joinRows first ++ '\n' :: joinRows last := by
  induction first with
  | nil => exact absurd rfl hfirst
  | cons row first ih =>
    rw [joinRows, List.cons_append, List.intercalate_cons_of_ne_nil (by simp [hlast])]
    by_cases hmore : first = []
    · subst hmore
      simp [joinRows]
    · rw [← joinRows, ih hmore, joinRows, joinRows, joinRows,
        List.intercalate_cons_of_ne_nil hmore]
      simp

/-- Every row of a text but the last one has a line feed behind it. -/
theorem joinRows_concat (parts : List (List Char)) (last : List Char) :
    joinRows (parts ++ [last]) = (parts.flatMap fun row => row ++ ['\n']) ++ last := by
  induction parts with
  | nil => rw [List.nil_append, joinRows, List.intercalate_singleton, List.flatMap_nil,
      List.nil_append]
  | cons row parts ih =>
    rw [List.cons_append, joinRows, List.intercalate_cons_of_ne_nil (by simp), ← joinRows, ih,
      List.flatMap_cons]
    simp only [List.append_assoc]

/-- The rows before a line feed and the rows behind it. -/
theorem rows_append (first last : List Char) :
    rows (first ++ '\n' :: last) = rows first ++ rows last := by
  have hjoin := joinRows_append (rows_ne_nil first) (rows_ne_nil last)
  rw [joinRows_rows, joinRows_rows] at hjoin
  rw [← hjoin, rows_joinRows (by simp [rows_ne_nil])]
  intro row hrow
  rcases List.mem_append.mp hrow with hrow | hrow
  · exact newline_not_mem_of_mem_rows hrow
  · exact newline_not_mem_of_mem_rows hrow

theorem rows_of_not_mem {row : List Char} (h : '\n' ∉ row) : rows row = [row] := by
  have hjoin := rows_joinRows (List.cons_ne_nil row []) (List.forall_mem_singleton.mpr h)
  rwa [joinRows, List.intercalate_singleton] at hjoin

/-- What is on the same row as the end of a text comes to its last row. -/
theorem rows_append_of_not_mem {text more last : List Char} {parts : List (List Char)}
    (h : rows text = parts ++ [last]) (hmore : '\n' ∉ more) :
    rows (text ++ more) = parts ++ [last ++ more] := by
  have htext : joinRows (parts ++ [last]) = text := by rw [← h, joinRows_rows]
  have hlast : '\n' ∉ last ++ more := by
    rw [List.mem_append, not_or]
    exact ⟨newline_not_mem_of_mem_rows (h ▸ List.mem_concat_self), hmore⟩
  rw [← htext]
  by_cases hparts : parts = []
  · subst hparts
    rw [List.nil_append, List.nil_append, joinRows, List.intercalate_singleton,
      rows_of_not_mem hlast]
  · rw [joinRows_append hparts (List.cons_ne_nil _ _), joinRows, joinRows,
      List.intercalate_singleton, List.append_assoc, List.cons_append, rows_append, ← joinRows,
      rows_of_not_mem hlast, rows_joinRows hparts]
    intro row hrow
    exact newline_not_mem_of_mem_rows (h ▸ List.mem_append_left _ hrow)

/-! ## Lines -/

theorem exists_rows_eq_append (text : List Char) : ∃ parts last, rows text = parts ++ [last] := by
  obtain ⟨parts, last, hrows⟩ :=
    (List.eq_nil_or_concat (rows text)).resolve_left (rows_ne_nil text)
  exact ⟨parts, last, hrows.trans List.concat_eq_append⟩

/-- Every row but the last one is a line, and so is the last one if there is something on it. -/
theorem lines_of_rows {text last : List Char} {parts : List (List Char)}
    (h : rows text = parts ++ [last]) :
    lines text = parts.map dropReturn ++ if last = [] then [] else [last] := by
  have hreverse : (rows text).reverse = last :: parts.reverse := by
    rw [h, List.reverse_append]
    rfl
  rw [lines, hreverse]
  dsimp only
  rw [List.reverse_reverse]
  by_cases hlast : last = []
  · rw [if_pos hlast, if_pos hlast, List.append_nil]
  · rw [if_neg hlast, if_neg hlast]

theorem isPrefix_dropReturn (row : List Char) : dropReturn row <+: row := by
  rw [dropReturn]
  split
  · exact List.dropLast_prefix row
  · exact List.prefix_refl row

/-- No line holds a line feed. -/
theorem newline_not_mem_of_mem_lines {text line : List Char} (h : line ∈ lines text) :
    '\n' ∉ line := by
  obtain ⟨parts, last, hrows⟩ := exists_rows_eq_append text
  rw [lines_of_rows hrows, List.mem_append] at h
  rcases h with h | h
  · obtain ⟨row, hrow, rfl⟩ := List.mem_map.mp h
    have hmem : row ∈ rows text := hrows ▸ List.mem_append_left _ hrow
    exact fun hline => newline_not_mem_of_mem_rows hmem ((isPrefix_dropReturn row).subset hline)
  · split at h
    · cases h
    · rw [List.mem_singleton.mp h]
      exact newline_not_mem_of_mem_rows (hrows ▸ List.mem_concat_self)

/-! ## Stretches -/

/-- The content has a stretch `code`, which starts on the given row. -/
def StandsAt (content : List Char) (row : Nat) (code : List Char) : Prop :=
  ∃ before after, content = before ++ code ++ after ∧ before.count '\n' = row

namespace StandsAt

variable {content code : List Char} {row : Nat}

/-- A stretch ends before the rows do. -/
theorem add_count_lt (h : StandsAt content row code) :
    row + code.count '\n' < (rows content).length := by
  obtain ⟨before, after, rfl, rfl⟩ := h
  rw [length_rows, List.count_append, List.count_append]
  omega

/-- What is left of a stretch on one row starts on the same row. -/
theorem of_append {before after : List Char} (h : StandsAt content row (before ++ code ++ after))
    (hbefore : '\n' ∉ before) : StandsAt content row code := by
  obtain ⟨start, rest, rfl, rfl⟩ := h
  refine ⟨start ++ before, after ++ rest, by simp only [List.append_assoc], ?_⟩
  rw [List.count_append, List.count_eq_zero.mpr hbefore, Nat.add_zero]

/-- A stretch of a text is one of a longer text that begins on the same row. -/
theorem append_left (h : StandsAt content row code) {before : List Char} (hbefore : '\n' ∉ before) :
    StandsAt (before ++ content) row code := by
  obtain ⟨start, rest, rfl, rfl⟩ := h
  refine ⟨before ++ start, rest, by simp only [List.append_assoc], ?_⟩
  rw [List.count_append, List.count_eq_zero.mpr hbefore, Nat.zero_add]

end StandsAt

/-- The rows before a stretch of rows, and the rows after it, are cut off with their line feeds. -/
theorem standsAt_of_append {before middle : List (List Char)} (hmiddle : middle ≠ [])
    (hbefore : ∀ row ∈ before, '\n' ∉ row) (after : List (List Char)) :
    StandsAt (joinRows (before ++ middle ++ after)) before.length (joinRows middle) := by
  -- Behind the rows there is nothing, or a line feed and the other rows.
  obtain ⟨rest, hrest⟩ : ∃ rest, joinRows (middle ++ after) = joinRows middle ++ rest := by
    by_cases hafter : after = []
    · exact ⟨[], by rw [hafter, List.append_nil, List.append_nil]⟩
    · exact ⟨_, joinRows_append hmiddle hafter⟩
  rw [List.append_assoc]
  by_cases hfirst : before = []
  · subst hfirst
    exact ⟨[], rest, hrest, rfl⟩
  · refine ⟨joinRows before ++ ['\n'], rest, ?_, ?_⟩
    · rw [joinRows_append hfirst (by simp [hmiddle]), hrest]
      simp
    · rw [List.count_append, List.count_singleton_self, count_joinRows hfirst hbefore]

/-- The rows from `first` to `last` are a stretch of the text, which starts on row `first`. -/
theorem standsAt_joinRows {content : List Char} {first last : Nat} (hle : first ≤ last)
    (hlast : last < (rows content).length) :
    StandsAt content first (joinRows (((rows content).drop first).take (last + 1 - first))) := by
  have hsplit : rows content = (rows content).take first ++
      ((rows content).drop first).take (last + 1 - first) ++
      ((rows content).drop first).drop (last + 1 - first) := by
    rw [List.append_assoc, List.take_append_drop, List.take_append_drop]
  have hmiddle : ((rows content).drop first).take (last + 1 - first) ≠ [] := by
    rw [← List.length_pos_iff, List.length_take, List.length_drop]
    omega
  have hbefore : ∀ row ∈ (rows content).take first, '\n' ∉ row :=
    fun row hrow => newline_not_mem_of_mem_rows (List.mem_of_mem_take hrow)
  have hstands := standsAt_of_append hmiddle hbefore
    (((rows content).drop first).drop (last + 1 - first))
  rwa [← hsplit, joinRows_rows, List.length_take, Nat.min_eq_left (by omega)] at hstands

/-- A row is a stretch of the text. -/
theorem standsAt_of_getElem? {content line : List Char} {row : Nat}
    (h : (rows content)[row]? = some line) : StandsAt content row line := by
  obtain ⟨hlt, hline⟩ := List.getElem?_eq_some_iff.mp h
  have hstands := standsAt_joinRows (Nat.le_refl row) hlt
  rwa [Nat.add_sub_cancel_left, List.take_one_drop_eq_of_lt_length hlt,
    List.get_eq_getElem, hline, joinRows, List.intercalate_singleton] at hstands

/-! ## Trimming -/

theorem trim_eq_rdropWhile (text : List Char) :
    trim text = (text.dropWhile isBlank).rdropWhile isBlank := rfl

/-- A text is what trimming leaves, between blank ends. -/
theorem exists_eq_append_trim (text : List Char) :
    ∃ before after, text = before ++ trim text ++ after ∧ (∀ c ∈ before, isBlank c = true) ∧
      ∀ c ∈ after, isBlank c = true := by
  refine ⟨text.takeWhile isBlank, (text.dropWhile isBlank).rtakeWhile isBlank, ?_, ?_, ?_⟩
  · rw [trim_eq_rdropWhile, List.append_assoc, List.rdropWhile_append_rtakeWhile,
      List.takeWhile_append_dropWhile]
  · exact fun c hc => List.mem_takeWhile_imp hc
  · exact fun c hc => List.mem_rtakeWhile_imp hc

theorem isInfix_trim (text : List Char) : trim text <:+: text := by
  obtain ⟨before, after, heq, -⟩ := exists_eq_append_trim text
  exact ⟨before, after, heq.symm⟩

theorem not_mem_trim {text : List Char} {c : Char} (h : c ∉ text) : c ∉ trim text :=
  fun hmem => h ((isInfix_trim text).subset hmem)

/-- A row without its blank ends starts on the same row. -/
theorem StandsAt.trim {content line : List Char} {row : Nat} (h : StandsAt content row line)
    (hline : '\n' ∉ line) : StandsAt content row (Text.trim line) := by
  obtain ⟨before, after, heq, -⟩ := exists_eq_append_trim line
  rw [heq] at h hline
  refine h.of_append fun hmem => hline ?_
  exact List.mem_append_left _ (List.mem_append_left _ hmem)

end CodeSearch.Text
