import CodeSearch.Proofs.Text.Rows
import Mathlib.Data.List.Infix

/-!
# Trimmed texts

A trimmed text has no blank character at either end, and trimming does not see blank characters that
are put around a text. For the rows of a text this means that it does not matter whether the text is
trimmed before it is taken apart, or where the ends of its lines are cut off.

- `IsTrimmed`: the text has no blank ends, as `trim` leaves it.
- `trim_append_left`, `trim_append_right`: blank characters around a text.
- `filledRows`: the rows of a text without their blank ends, and without the blank rows.
- `filledRows_trim`, `filledRows_lines`: they are the same for the trimmed text, and for its lines.
-/

namespace CodeSearch.Text

/-! ## Blank ends -/

/-- Neither end of the text is a blank character. -/
structure IsTrimmed (text : List Char) : Prop where
  first : ∀ c, text.head? = some c → isBlank c = false
  last : ∀ c, text.getLast? = some c → isBlank c = false

theorem isTrimmed_trim (text : List Char) : IsTrimmed (trim text) := by
  have hfirst := List.head?_dropWhile_not isBlank text
  rw [trim_eq_rdropWhile]
  constructor
  · intro c hc
    -- What is left after cutting the end off begins as the text did before.
    obtain ⟨rest, hrest⟩ := List.rdropWhile_prefix isBlank (l := text.dropWhile isBlank)
    rw [← hrest, List.head?_append, hc] at hfirst
    exact hfirst
  · intro c hc
    have hne : (text.dropWhile isBlank).rdropWhile isBlank ≠ [] := by
      intro hnil
      rw [hnil] at hc
      cases hc
    rw [List.getLast?_eq_some_getLast hne] at hc
    obtain rfl := Option.some.inj hc
    exact Bool.eq_false_iff.mpr (List.rdropWhile_last_not isBlank _ hne)

/-- Trimming does not see blank characters before a text. -/
theorem trim_append_left {before : List Char} (h : ∀ c ∈ before, isBlank c = true)
    (text : List Char) : trim (before ++ text) = trim text := by
  rw [trim_eq_rdropWhile, List.dropWhile_append_of_pos h, ← trim_eq_rdropWhile]

/-- Trimming does not see blank characters behind a text. -/
theorem trim_append_right {after : List Char} (h : ∀ c ∈ after, isBlank c = true)
    (text : List Char) : trim (text ++ after) = trim text := by
  rw [trim_eq_rdropWhile, trim_eq_rdropWhile, List.dropWhile_append]
  split
  · next hempty =>
    rw [List.isEmpty_iff.mp hempty, List.dropWhile_eq_nil_iff.mpr h]
  · rw [List.rdropWhile, List.reverse_append,
      List.dropWhile_append_of_pos (fun c hc => h c (List.mem_reverse.mp hc)), ← List.rdropWhile]

theorem trim_trim (text : List Char) : trim (trim text) = trim text := by
  obtain ⟨before, after, heq, hbefore, hafter⟩ := exists_eq_append_trim text
  conv_rhs => rw [heq, trim_append_right hafter, trim_append_left hbefore]

/-- A text without blank characters is trimmed. -/
theorem trim_eq_self {text : List Char} (h : ∀ c ∈ text, isBlank c = false) : trim text = text := by
  have hfirst : text.dropWhile isBlank = text :=
    List.dropWhile_eq_self_iff.mpr fun _ => by simp [h]
  rw [trim_eq_rdropWhile, hfirst]
  exact List.rdropWhile_eq_self_iff.mpr fun hne => by simp [h _ (List.getLast_mem hne)]

/-- Trimming leaves nothing of blank characters, and something of everything else. -/
theorem trim_eq_nil_iff {text : List Char} : trim text = [] ↔ ∀ c ∈ text, isBlank c = true := by
  rw [trim_eq_rdropWhile, List.rdropWhile_eq_nil_iff]
  constructor
  · intro h c hc
    rw [← List.takeWhile_append_dropWhile (p := isBlank) (l := text), List.mem_append] at hc
    rcases hc with hc | hc
    · exact List.mem_takeWhile_imp hc
    · exact h c hc
  · exact fun h c hc => h c ((List.dropWhile_sublist isBlank).subset hc)

/-- A character that is not to be cut off stays. -/
theorem mem_trimStartWhere {p : Char → Bool} {text : List Char} {c : Char} (hc : c ∈ text)
    (hp : p c = false) : c ∈ trimStartWhere p text := by
  rw [← List.takeWhile_append_dropWhile (p := p) (l := text), List.mem_append] at hc
  refine hc.resolve_left fun htaken => ?_
  rw [List.mem_takeWhile_imp htaken] at hp
  cases hp

theorem mem_trimWhere {p : Char → Bool} {text : List Char} {c : Char} (hc : c ∈ text)
    (hp : p c = false) : c ∈ trimWhere p text :=
  List.mem_reverse.mpr (mem_trimStartWhere (List.mem_reverse.mpr (mem_trimStartWhere hc hp)) hp)

/-! ## Rows with something on them -/

/-- The rows without their blank ends, where something is left of them. -/
def filledRows (parts : List (List Char)) : List (List Char) :=
  (parts.map trim).filter fun row => !row.isEmpty

theorem filledRows_append (first last : List (List Char)) :
    filledRows (first ++ last) = filledRows first ++ filledRows last := by
  rw [filledRows, List.map_append, List.filter_append, filledRows, filledRows]

theorem filledRows_cons (row : List Char) (parts : List (List Char)) :
    filledRows (row :: parts) =
      if trim row = [] then filledRows parts else trim row :: filledRows parts := by
  simp only [filledRows, List.map_cons, List.filter_cons, Bool.not_eq_true',
    List.isEmpty_eq_false_iff]
  by_cases h : trim row = [] <;> simp [h]

theorem filledRows_congr {first last : List (List Char)} (h : first.map trim = last.map trim) :
    filledRows first = filledRows last := by
  rw [filledRows, h, filledRows]

theorem filledRows_empty : filledRows [[]] = [] := rfl

/-- Blank characters before a text. -/
theorem filledRows_append_left {before : List Char} (h : ∀ c ∈ before, isBlank c = true)
    (text : List Char) : filledRows (rows (before ++ text)) = filledRows (rows text) := by
  induction before with
  | nil => rfl
  | cons c before ih =>
    obtain ⟨hc, hbefore⟩ := List.forall_mem_cons.mp h
    rw [← ih hbefore, List.cons_append, rows_cons]
    by_cases hline : c = '\n'
    · rw [if_pos hline, filledRows_cons, if_pos trim_nil]
    · rw [if_neg hline]
      cases hrows : rows (before ++ text) with
      | nil => exact absurd hrows (rows_ne_nil _)
      | cons row rest =>
        refine filledRows_congr ?_
        rw [consRow, List.map_cons, List.map_cons]
        exact congrArg (· :: _) (trim_append_left (List.forall_mem_singleton.mpr hc) row)

/-- Blank characters behind a text. -/
theorem filledRows_append_right {after : List Char} (h : ∀ c ∈ after, isBlank c = true)
    (text : List Char) : filledRows (rows (text ++ after)) = filledRows (rows text) := by
  induction after generalizing text with
  | nil => rw [List.append_nil]
  | cons c after ih =>
    obtain ⟨hc, hafter⟩ := List.forall_mem_cons.mp h
    rw [List.append_cons, ih hafter]
    by_cases hline : c = '\n'
    · rw [hline, rows_append, rows_nil, filledRows_append, filledRows_empty, List.append_nil]
    · obtain ⟨parts, last, hrows⟩ := exists_rows_eq_append text
      rw [rows_append_of_not_mem hrows (by simpa [eq_comm] using hline), hrows]
      refine filledRows_congr ?_
      rw [List.map_append, List.map_append, List.map_singleton, List.map_singleton,
        trim_append_right (List.forall_mem_singleton.mpr hc)]

/-- A text and what trimming leaves of it have the same filled rows. -/
theorem filledRows_trim (text : List Char) :
    filledRows (rows (trim text)) = filledRows (rows text) := by
  obtain ⟨before, after, heq, hbefore, hafter⟩ := exists_eq_append_trim text
  conv_rhs => rw [heq, filledRows_append_right hafter, filledRows_append_left hbefore]

theorem trim_dropReturn (row : List Char) : trim (dropReturn row) = trim row := by
  unfold dropReturn
  split
  · next hlast =>
    obtain ⟨rest, rfl⟩ := List.getLast?_eq_some_iff.mp hlast
    rw [List.dropLast_concat, trim_append_right (List.forall_mem_singleton.mpr (by decide))]
  · rfl

/-- The lines of a text have the same filled rows as the text. -/
theorem filledRows_lines (text : List Char) :
    filledRows (lines text) = filledRows (rows text) := by
  obtain ⟨parts, last, hrows⟩ := exists_rows_eq_append text
  have hended : filledRows (parts.map dropReturn) = filledRows parts := by
    refine filledRows_congr ?_
    rw [List.map_map]
    exact List.map_congr_left fun row _ => trim_dropReturn row
  rw [lines_of_rows hrows, hrows, filledRows_append, filledRows_append, hended]
  split
  · next hlast => rw [hlast, filledRows_empty]; rfl
  · rfl

end CodeSearch.Text
