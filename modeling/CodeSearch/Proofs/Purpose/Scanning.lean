import CodeSearch.Proofs.Text.Trimming
import CodeSearch.Purpose

/-!
# Reading a purpose row by row

The search for a purpose reads one row after the other. A row gives a text or none, and all that it
hands on to the next one is whether a block comment is open.

- `Comment.textOf?`, `Comment.openAfter`: what a row gives, and what it hands on.
- `purposeOfLines_append`: the search through some rows and then through others.
- `purposeOfLines_eq_some_iff`, `purposeOfLines_eq_none_iff`: where a text is found, and when none
  is.
- `purposeLine_eq_rows`, `purposeLine_eq_lines`: it does not matter that the code is trimmed first,
  or how its lines end.
-/

namespace CodeSearch

open Text (trim rows lines filledRows)

namespace Comment

/-! ## One row -/

/-- The text that a row gives: that of its comment, if it has one and something is left of it. -/
def textOf? (inBlock : Bool) (row : List Char) : Option (List Char) :=
  (ofLine? inBlock (trim row)).bind fun form =>
    let text := trim (form.body (trim row))
    if text.isEmpty then none else some text

/-- Whether a block comment is open behind a row. -/
def openAfter (inBlock : Bool) (row : List Char) : Bool :=
  match ofLine? inBlock (trim row) with
  | none => inBlock
  | some form => form.blockAfter inBlock (trim row)

/-- Whether a block comment is open behind some rows. -/
def openBehind (inBlock : Bool) (rows : List (List Char)) : Bool :=
  rows.foldl openAfter inBlock

variable {inBlock : Bool} {row text line : List Char}

theorem openBehind_append (inBlock : Bool) (first last : List (List Char)) :
    openBehind inBlock (first ++ last) = openBehind (openBehind inBlock first) last :=
  List.foldl_append

theorem textOf?_eq_some_iff : textOf? inBlock row = some text ↔
    ∃ form, ofLine? inBlock (trim row) = some form ∧ trim (form.body (trim row)) = text ∧
      text ≠ [] := by
  simp only [textOf?, Option.bind_eq_some_iff, Option.ite_none_left_eq_some, List.isEmpty_iff,
    Option.some_inj]
  constructor
  · rintro ⟨form, hform, hne, rfl⟩
    exact ⟨form, hform, rfl, hne⟩
  · rintro ⟨form, hform, rfl, hne⟩
    exact ⟨form, hform, hne, rfl⟩

theorem textOf?_eq_none_iff : textOf? inBlock row = none ↔
    ofLine? inBlock (trim row) = none ∨
      ∃ form, ofLine? inBlock (trim row) = some form ∧ trim (form.body (trim row)) = [] := by
  cases hform : ofLine? inBlock (trim row) with
  | none => simp [textOf?, hform]
  | some form => simp [textOf?, hform]

/-- A row without a comment gives nothing and changes nothing. -/
theorem textOf?_of_none (h : ofLine? inBlock (trim row) = none) : textOf? inBlock row = none :=
  textOf?_eq_none_iff.mpr (Or.inl h)

theorem openAfter_of_none (h : ofLine? inBlock (trim row) = none) :
    openAfter inBlock row = inBlock := by
  rw [openAfter, h]

theorem openAfter_of_some {form : Comment} (h : ofLine? inBlock (trim row) = some form) :
    openAfter inBlock row = form.blockAfter inBlock (trim row) := by
  rw [openAfter, h]

theorem textOf?_trim (inBlock : Bool) (row : List Char) :
    textOf? inBlock (trim row) = textOf? inBlock row := by
  rw [textOf?, Text.trim_trim, textOf?]

theorem openAfter_trim (inBlock : Bool) (row : List Char) :
    openAfter inBlock (trim row) = openAfter inBlock row := by
  rw [openAfter, Text.trim_trim, openAfter]

theorem ofLine?_nil (inBlock : Bool) : ofLine? inBlock [] = none := by
  cases inBlock <;> rfl

/-! ## Markers -/

theorem isPrefix_untilBlockEnd (line : List Char) : (untilBlockEnd line).1 <+: line := by
  fun_induction untilBlockEnd line with
  | case1 rest => exact List.nil_prefix
  | case2 c rest _ text closed h ih =>
    rw [h] at ih
    exact (List.prefix_cons_inj c).mpr ih
  | case3 => exact List.prefix_refl []

/-- A block is closed on a line if the closing marker is somewhere on it. -/
theorem untilBlockEnd_closed_iff : (untilBlockEnd line).2 = true ↔ ['*', '/'] <:+: line := by
  fun_induction untilBlockEnd line with
  | case1 rest => exact iff_of_true rfl (List.prefix_append ['*', '/'] rest).isInfix
  | case2 c rest hopen text closed h ih =>
    rw [h] at ih
    rw [List.infix_cons_iff, ← ih]
    refine (or_iff_right ?_).symm
    -- The closing marker does not stand at the start.
    rintro ⟨more, hmore⟩
    cases hmore
    exact hopen more rfl rfl
  | case3 => simp

/-- What is left of a line with a `#` comment is what stands behind the first run of `#`. -/
theorem eq_of_hashRest? {rest : List Char} (h : hashRest? line = some rest) :
    ∃ more, line = '#' :: more ∧ Text.trimStartWhere (· == '#') more = rest := by
  unfold hashRest? at h
  split at h
  · next more =>
    refine ⟨more, rfl, ?_⟩
    dsimp only at h
    split at h
    · exact Option.some.inj h
    · exact (Option.ite_none_right_eq_some.mp h).2 |> Option.some.inj
  · cases h

/-- The text of a comment is a stretch of its line. -/
theorem isInfix_body (form : Comment) (line : List Char) : form.body line <:+: line := by
  have hdrop : line.drop 2 <:+: line := (List.drop_suffix 2 line).isInfix
  cases form with
  | docstring =>
    exact (List.rdropWhile_prefix _ _).isInfix.trans (List.dropWhile_suffix _).isInfix
  | blockStart =>
    exact (List.dropWhile_suffix _).isInfix.trans ((isPrefix_untilBlockEnd _).isInfix.trans hdrop)
  | blockRest => exact (List.dropWhile_suffix _).isInfix.trans (isPrefix_untilBlockEnd _).isInfix
  | line => exact (List.dropWhile_suffix _).isInfix.trans hdrop
  | hash =>
    show (hashRest? line).getD [] <:+: line
    cases hrest : hashRest? line with
    | none => exact List.nil_infix
    | some rest =>
      obtain ⟨more, rfl, rfl⟩ := eq_of_hashRest? hrest
      exact ((List.dropWhile_suffix _).trans (List.suffix_cons _ _)).isInfix

end Comment

open Comment

/-! ## Some rows -/

variable {inBlock : Bool} {text : List Char}

theorem purposeOfLines_cons (inBlock : Bool) (row : List Char) (rows : List (List Char)) :
    purposeOfLines inBlock (row :: rows) =
      (textOf? inBlock row).or (purposeOfLines (openAfter inBlock row) rows) := by
  rw [purposeOfLines]
  cases hform : ofLine? inBlock (trim row) with
  | none => rw [textOf?_of_none hform, openAfter_of_none hform, Option.none_or]
  | some form =>
    rw [openAfter_of_some hform, textOf?, hform, Option.bind_some]
    dsimp only
    split
    · rw [Option.none_or]
    · rw [Option.some_or]

/-- The search goes on behind some rows if it finds nothing in them, with a block comment open or
not as they leave it. -/
theorem purposeOfLines_append (inBlock : Bool) (first last : List (List Char)) :
    purposeOfLines inBlock (first ++ last) =
      (purposeOfLines inBlock first).or (purposeOfLines (openBehind inBlock first) last) := by
  induction first generalizing inBlock with
  | nil => rfl
  | cons row first ih =>
    rw [List.cons_append, purposeOfLines_cons, ih, purposeOfLines_cons, Option.or_assoc]
    rfl

/-- A text is found on a row if the rows before it give none. -/
theorem purposeOfLines_eq_some_iff {parts : List (List Char)} :
    purposeOfLines inBlock parts = some text ↔
      ∃ before row after, parts = before ++ row :: after ∧ purposeOfLines inBlock before = none ∧
        textOf? (openBehind inBlock before) row = some text := by
  constructor
  · intro h
    induction parts generalizing inBlock with
    | nil => cases h
    | cons row parts ih =>
      rw [purposeOfLines_cons, Option.or_eq_some_iff] at h
      rcases h with h | ⟨hnone, h⟩
      · exact ⟨[], row, parts, rfl, rfl, h⟩
      · obtain ⟨before, found, after, rfl, hbefore, hfound⟩ := ih h
        refine ⟨row :: before, found, after, rfl, ?_, hfound⟩
        rw [purposeOfLines_cons, hnone, hbefore, Option.or_none]
  · rintro ⟨before, row, after, rfl, hbefore, hrow⟩
    rw [purposeOfLines_append, hbefore, Option.none_or, purposeOfLines_cons, hrow, Option.some_or]

/-- No text is found if no row gives one. -/
theorem purposeOfLines_eq_none_iff {parts : List (List Char)} :
    purposeOfLines inBlock parts = none ↔
      ∀ before row after, parts = before ++ row :: after →
        textOf? (openBehind inBlock before) row = none := by
  constructor
  · rintro h before row after rfl
    rw [purposeOfLines_append, Option.or_eq_none_iff, purposeOfLines_cons,
      Option.or_eq_none_iff] at h
    exact h.2.1
  · intro h
    by_contra hsome
    obtain ⟨text, htext⟩ := Option.ne_none_iff_exists'.mp hsome
    obtain ⟨before, row, after, hparts, -, hrow⟩ := purposeOfLines_eq_some_iff.mp htext
    rw [h before row after hparts] at hrow
    cases hrow

/-- Blank ends and blank rows do not matter. -/
theorem purposeOfLines_filledRows (inBlock : Bool) (parts : List (List Char)) :
    purposeOfLines inBlock (filledRows parts) = purposeOfLines inBlock parts := by
  induction parts generalizing inBlock with
  | nil => rfl
  | cons row parts ih =>
    rw [Text.filledRows_cons, purposeOfLines_cons inBlock row parts]
    by_cases hrow : trim row = []
    · have hnone : ofLine? inBlock (trim row) = none := by rw [hrow, ofLine?_nil]
      rw [if_pos hrow, ih, textOf?_of_none hnone, openAfter_of_none hnone, Option.none_or]
    · rw [if_neg hrow, purposeOfLines_cons, textOf?_trim, openAfter_trim, ih]

/-! ## A piece of code -/

/-- The purpose of a piece of code is found in its rows. -/
theorem purposeLine_eq_rows (code : String) :
    purposeLine code = (purposeOfLines false (rows code.toList)).map String.ofList := by
  rw [purposeLine, ← purposeOfLines_filledRows false (lines _), Text.filledRows_lines,
    Text.filledRows_trim, purposeOfLines_filledRows]

/-- The purpose of a piece of code is found in its lines. -/
theorem purposeLine_eq_lines (code : String) :
    purposeLine code = (purposeOfLines false (lines code.toList)).map String.ofList := by
  rw [purposeLine_eq_rows, ← purposeOfLines_filledRows false (rows _), ← Text.filledRows_lines,
    purposeOfLines_filledRows]

end CodeSearch
