/-!
# Lines of a text

- `rows text`: the parts of the text between line feeds; a trailing line feed gives a last, empty
  row, and the empty text has one row.
- `joinRows`: the rows again with a line feed between any two.
- `lines text`: the rows as a reader sees them: a line feed ends a line instead of starting an
  empty last one, and a carriage return before it belongs to the line end.
-/

namespace CodeSearch.Text

/-- Puts a character in front of the first row. -/
def consRow (c : Char) : List (List Char) → List (List Char)
  | [] => [[c]]
  | row :: rest => (c :: row) :: rest

/-- The parts of a text between line feeds. -/
def rows (text : List Char) : List (List Char) :=
  text.foldr (fun c rest => if c = '\n' then [] :: rest else consRow c rest) [[]]

/-- Rows with a line feed between any two. -/
def joinRows (parts : List (List Char)) : List Char :=
  List.intercalate ['\n'] parts

/-- A row without the carriage return at its end. -/
def dropReturn (row : List Char) : List Char :=
  if row.getLast? = some '\r' then row.dropLast else row

/-- The lines of a text: every line ends with a line feed, or with a carriage return and a line
feed, except that the last one may lack both. -/
def lines (text : List Char) : List (List Char) :=
  match (rows text).reverse with
  | [] => []
  | last :: ended =>
    let complete := ended.reverse.map dropReturn
    if last = [] then complete else complete ++ [last]

/-! ## Laws -/

@[simp] theorem rows_nil : rows [] = [[]] := rfl

theorem rows_cons (c : Char) (text : List Char) :
    rows (c :: text) = if c = '\n' then [] :: rows text else consRow c (rows text) := rfl

theorem consRow_ne_nil (c : Char) (parts : List (List Char)) : consRow c parts ≠ [] := by
  cases parts <;> simp [consRow]

theorem rows_ne_nil (text : List Char) : rows text ≠ [] := by
  cases text with
  | nil => simp
  | cons c text =>
    rw [rows_cons]
    split
    · simp
    · exact consRow_ne_nil c _

/-- No row holds a line feed. -/
theorem newline_not_mem_of_mem_rows {text row : List Char} (h : row ∈ rows text) : '\n' ∉ row := by
  induction text generalizing row with
  | nil => simp_all
  | cons c text ih =>
    rw [rows_cons] at h
    split at h
    · rcases List.mem_cons.mp h with rfl | h
      · simp
      · exact ih h
    · next hc =>
      cases hr : rows text with
      | nil => exact absurd hr (rows_ne_nil text)
      | cons first rest =>
        simp only [hr, consRow, List.mem_cons] at h
        rcases h with rfl | h
        · have : '\n' ∉ first := ih (by simp [hr])
          simp_all [eq_comm]
        · exact ih (by simp [hr, h])

/-- One row more than there are line feeds. -/
theorem length_rows (text : List Char) : (rows text).length = text.count '\n' + 1 := by
  induction text with
  | nil => rfl
  | cons c text ih =>
    rw [rows_cons]
    by_cases hc : c = '\n'
    · simp [hc, ih]
    · cases hr : rows text with
      | nil => exact absurd hr (rows_ne_nil text)
      | cons first rest => simp_all [consRow]

end CodeSearch.Text
