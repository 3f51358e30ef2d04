import CodeSearch.Proofs.Purpose.Scanning

/-!
# What a purpose depends on

The purpose of a piece of code is a stretch of the first line that gives a text. What stands behind
that line does not matter, and neither do lines without a comment in front of the code.

- `Comment.IsUnmarked`: a line that does not begin with a marker.
- `Comment.textOf?_spec`, `purposeLine_spec`: what is true of a text that a row gives, and of a
  purpose.
- `purposeLine_append`, `purposeLine_cons`: code behind a purpose, and lines in front of some code.
- `purposeLine_stable`: all of it, and when there is no purpose.
-/

namespace CodeSearch

open Text (trim rows lines IsTrimmed)

namespace Comment

/-- The line begins with no marker of a comment. A `#` counts only where it begins a comment, and a
`*` not at all, as it is a marker only where a block comment is open. -/
def IsUnmarked (line : List Char) : Prop :=
  (∀ marker ∈ [['"', '"', '"'], ['\'', '\'', '\''], ['/', '*'], ['/', '/']], ¬ marker <+: line) ∧
    hashRest? line = none

instance (line : List Char) : Decidable (IsUnmarked line) :=
  inferInstanceAs (Decidable (_ ∧ _))

theorem ofLine?_of_isUnmarked {line : List Char} (h : IsUnmarked line) :
    ofLine? false line = none := by
  obtain ⟨hmarkers, hhash⟩ := h
  simp only [List.forall_mem_cons, List.not_mem_nil, false_implies, implies_true, and_true,
    ← List.isPrefixOf_iff_prefix, Bool.not_eq_true] at hmarkers
  obtain ⟨hdouble, hsingle, hblock, hline⟩ := hmarkers
  simp [ofLine?, hdouble, hsingle, hblock, hline, hhash]

/-- A text that a row gives is a stretch of the row with something in it and without blank ends. -/
theorem textOf?_spec {inBlock : Bool} {row text : List Char}
    (h : textOf? inBlock row = some text) : text ≠ [] ∧ IsTrimmed text ∧ text <:+: trim row := by
  obtain ⟨form, -, rfl, hne⟩ := textOf?_eq_some_iff.mp h
  exact ⟨hne, Text.isTrimmed_trim _, (Text.isInfix_trim _).trans (isInfix_body form _)⟩

end Comment

open Comment (IsUnmarked ofLine? openBehind textOf?)

/-! ## A piece of code -/

variable {code purpose : String}

theorem rows_append_line (first last : String) :
    rows (first ++ "\n" ++ last).toList = rows first.toList ++ rows last.toList := by
  rw [String.toList_append, String.toList_append, List.append_assoc]
  exact Text.rows_append first.toList last.toList

/-- A purpose is not empty, has no blank ends and is a stretch of one line of the code. -/
theorem purposeLine_spec (h : purposeLine code = some purpose) :
    purpose ≠ "" ∧ IsTrimmed purpose.toList ∧
      ∃ line ∈ lines code.toList, purpose.toList <:+: line := by
  rw [purposeLine_eq_lines] at h
  obtain ⟨text, htext, rfl⟩ := Option.map_eq_some_iff.mp h
  obtain ⟨before, line, after, hlines, -, hfound⟩ := purposeOfLines_eq_some_iff.mp htext
  obtain ⟨hne, htrimmed, hinfix⟩ := Comment.textOf?_spec hfound
  have hline : line ∈ lines code.toList := by
    rw [hlines]
    exact List.mem_append_right _ List.mem_cons_self
  rw [Ne, ← String.toList_inj, String.toList_ofList]
  exact ⟨hne, htrimmed, line, hline, hinfix.trans (Text.isInfix_trim line)⟩

/-- A purpose stays the purpose whatever follows on further lines. -/
theorem purposeLine_append (h : purposeLine code = some purpose) (more : String) :
    purposeLine (code ++ "\n" ++ more) = some purpose := by
  rw [purposeLine_eq_rows] at h
  obtain ⟨text, htext, rfl⟩ := Option.map_eq_some_iff.mp h
  rw [purposeLine_eq_rows, rows_append_line, purposeOfLines_append, htext, Option.some_or,
    Option.map_some]

/-- A line without a comment in front of some code changes nothing. -/
theorem purposeLine_cons {line : String} (hline : '\n' ∉ line.toList)
    (hunmarked : IsUnmarked (trim line.toList)) (code : String) :
    purposeLine (line ++ "\n" ++ code) = purposeLine code := by
  have hnone := Comment.ofLine?_of_isUnmarked hunmarked
  rw [purposeLine_eq_rows, rows_append_line, Text.rows_of_not_mem hline, List.singleton_append,
    purposeOfLines_cons, Comment.textOf?_of_none hnone, Comment.openAfter_of_none hnone,
    Option.none_or, purposeLine_eq_rows]

/-- There is no purpose if no line gives a text, with a block comment open or not as the lines
before it leave it. -/
theorem purposeLine_eq_none_iff : purposeLine code = none ↔
    ∀ before line after, lines code.toList = before ++ line :: after →
      ofLine? (openBehind false before) (trim line) = none ∨
      ∃ form, ofLine? (openBehind false before) (trim line) = some form ∧
        trim (form.body (trim line)) = [] := by
  rw [purposeLine_eq_lines, Option.map_eq_none_iff, purposeOfLines_eq_none_iff]
  simp only [Comment.textOf?_eq_none_iff]

/-- A purpose is not empty, has no blank ends and is a stretch of one line of the code, and it stays
the purpose whatever follows on further lines. A line without a comment in front of the code changes
nothing. There is no purpose if and only if no line, read with a block comment open or not as the
lines before it leave it, has a comment with something in it. -/
theorem purposeLine_stable (code : String) :
    (∀ purpose, purposeLine code = some purpose →
      purpose ≠ "" ∧ IsTrimmed purpose.toList ∧
      (∃ line ∈ lines code.toList, purpose.toList <:+: line) ∧
      ∀ more, purposeLine (code ++ "\n" ++ more) = some purpose) ∧
    (∀ line : String, '\n' ∉ line.toList → IsUnmarked (trim line.toList) →
      purposeLine (line ++ "\n" ++ code) = purposeLine code) ∧
    (purposeLine code = none ↔
      ∀ before line after, lines code.toList = before ++ line :: after →
        ofLine? (openBehind false before) (trim line) = none ∨
        ∃ form, ofLine? (openBehind false before) (trim line) = some form ∧
          trim (form.body (trim line)) = []) := by
  refine ⟨fun purpose hpurpose => ?_, fun line hline hunmarked => ?_, purposeLine_eq_none_iff⟩
  · obtain ⟨hne, htrimmed, hstretch⟩ := purposeLine_spec hpurpose
    exact ⟨hne, htrimmed, hstretch, purposeLine_append hpurpose⟩
  · exact purposeLine_cons hline hunmarked code

/-- A block comment over several lines, with code on further lines and in front of it. -/
theorem purposeLine_stable_of_block :
    let code := "/**\n * Sum of two\n */\nadd(a, b)"
    purposeLine code = some "Sum of two" ∧ IsUnmarked (trim "* a".toList) ∧
      purposeLine (code ++ "\n" ++ "// a + b") = some "Sum of two" ∧
      purposeLine ("* a" ++ "\n" ++ code) = some "Sum of two" := by
  intro code
  have hpurpose : purposeLine code = some "Sum of two" := by decide +kernel
  have hunmarked : IsUnmarked (trim "* a".toList) := by decide +kernel
  obtain ⟨hfound, hfront, -⟩ := purposeLine_stable code
  obtain ⟨-, -, -, hmore⟩ := hfound _ hpurpose
  exact ⟨hpurpose, hunmarked, hmore "// a + b",
    (hfront "* a" (by decide +kernel) hunmarked).trans hpurpose⟩

end CodeSearch
