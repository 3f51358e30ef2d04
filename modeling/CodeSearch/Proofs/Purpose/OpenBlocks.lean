import CodeSearch.Proofs.Purpose.Scanning

/-!
# Lines that go on with a block comment

A line that starts with `*` is read as part of a comment as long as a block comment is taken to be
open. The end of a block is looked for on the lines that begin with a marker only, so a block that
is closed on another line is taken to be open until a further line closes it.

- `Comment.Closes`: a text has the marker that closes a block.
- `OpenedAt`: the row that opened a block last, and the rows behind it.
- `openAfter_cases`, `exists_openedAt`: how a block comes to be open behind a row, and behind some
  rows.
- `StillOpen`: a block is open in the text of some rows.
- `purposeLine_openBlock`: when a purpose on a line with `*` comes from an open block.
- `purposeLine_of_closed`: a purpose from a line of code behind a block that was closed.
-/

namespace CodeSearch

open Text (trim rows joinRows isBlank)

namespace Comment

/-! ## The end of a block -/

/-- The text has the marker that closes a block comment. -/
def Closes (text : List Char) : Prop := ['*', '/'] <:+: text

variable {text : List Char} {c : Char}

theorem Closes.star_mem (h : Closes text) : '*' ∈ text := h.subset List.mem_cons_self

/-- The closing marker does not go across a blank character. -/
theorem closes_append_cons_iff (hc : isBlank c = true) (first last : List Char) :
    Closes (first ++ c :: last) ↔ Closes first ∨ Closes last := by
  have hmarker : ∀ d ∈ ['*', '/'], isBlank d = false :=
    List.forall_mem_cons.mpr ⟨by decide, List.forall_mem_singleton.mpr (by decide)⟩
  have hnot : c ∉ ['*', '/'] := fun hmem => absurd hc (by simp [hmarker c hmem])
  constructor
  · intro h
    rcases List.infix_append_iff.mp h with h | h | ⟨start, rest, heq, hstart, hrest⟩
    · exact Or.inl h
    · rcases List.infix_cons_iff.mp h with h | h
      · obtain ⟨more, hmore⟩ := h
        cases hmore
        exact absurd hc (by decide)
      · exact Or.inr h
    · -- Part of the marker would have to begin with the blank character.
      cases rest with
      | nil =>
        rw [List.append_nil] at heq
        subst heq
        exact Or.inl hstart.isInfix
      | cons d rest =>
        obtain ⟨rfl, -⟩ := List.cons_prefix_cons.mp hrest
        exact absurd (heq ▸ List.mem_append_right start List.mem_cons_self) hnot
  · rintro (h | h)
    · exact h.trans (List.prefix_append first _).isInfix
    · exact h.trans ((List.suffix_cons c last).trans (List.suffix_append first _)).isInfix

theorem not_closes_of_blank (h : ∀ c ∈ text, isBlank c = true) : ¬ Closes text :=
  fun hcloses => absurd (h _ hcloses.star_mem) (by decide)

theorem closes_append_right {after : List Char} (h : ∀ c ∈ after, isBlank c = true) :
    Closes (text ++ after) ↔ Closes text := by
  cases after with
  | nil => rw [List.append_nil]
  | cons c after =>
    obtain ⟨hc, hafter⟩ := List.forall_mem_cons.mp h
    rw [closes_append_cons_iff hc, or_iff_left (not_closes_of_blank hafter)]

theorem closes_append_left {before : List Char} (h : ∀ c ∈ before, isBlank c = true) :
    Closes (before ++ text) ↔ Closes text := by
  induction before with
  | nil => rfl
  | cons c before ih =>
    obtain ⟨hc, hbefore⟩ := List.forall_mem_cons.mp h
    rw [← ih hbefore, ← List.nil_append (c :: before ++ text), List.cons_append,
      closes_append_cons_iff hc, or_iff_right (not_closes_of_blank (List.forall_mem_nil _))]

theorem closes_trim : Closes (trim text) ↔ Closes text := by
  obtain ⟨before, after, heq, hbefore, hafter⟩ := Text.exists_eq_append_trim text
  conv_rhs => rw [heq]
  rw [closes_append_right hafter, closes_append_left hbefore]

/-- Rows have a closing marker if one of them has. -/
theorem closes_joinRows_iff {parts : List (List Char)} :
    Closes (joinRows parts) ↔ ∃ row ∈ parts, Closes row := by
  induction parts with
  | nil => exact iff_of_false (not_closes_of_blank (List.forall_mem_nil _)) (by simp)
  | cons row parts ih =>
    rw [List.exists_mem_cons_iff, ← ih]
    by_cases hparts : parts = []
    · subst hparts
      have hnone : ¬ Closes (joinRows []) := not_closes_of_blank (List.forall_mem_nil _)
      rw [or_iff_left hnone, joinRows, List.intercalate_singleton]
    · rw [joinRows, List.intercalate_cons_of_ne_nil hparts, ← joinRows, List.append_assoc,
        List.singleton_append, closes_append_cons_iff (by decide)]

/-! ## The forms of comments -/

variable {inBlock : Bool} {line row : List Char} {form : Comment}

/-- The line begins as comments of a form do. -/
def Begins (inBlock : Bool) (line : List Char) : Comment → Prop
  | .docstring => ['"', '"', '"'] <+: line ∨ ['\'', '\'', '\''] <+: line
  | .blockStart => ['/', '*'] <+: line
  | .blockRest => inBlock = true ∧ ['*'] <+: line
  | .line => ['/', '/'] <+: line
  | .hash => (hashRest? line).isSome = true

theorem begins_of_ofLine? (h : ofLine? inBlock line = some form) : form.Begins inBlock line := by
  simp only [ofLine?, Bool.or_eq_true, Bool.and_eq_true, List.isPrefixOf_iff_prefix] at h
  split at h
  · next hquotes =>
    cases h
    exact hquotes
  split at h
  · next hopening =>
    cases h
    exact hopening
  split at h
  · next hstar =>
    cases h
    exact hstar
  split at h
  · next hslashes =>
    cases h
    exact hslashes
  obtain ⟨hhash, hform⟩ := Option.ite_none_right_eq_some.mp h
  cases hform
  exact hhash

theorem ofLine?_of_opening (h : ['/', '*'] <+: line) : ofLine? inBlock line = some .blockStart := by
  obtain ⟨rest, rfl⟩ := h
  rfl

theorem ofLine?_of_star (h : ['*'] <+: line) :
    ofLine? inBlock line = if inBlock then some .blockRest else none := by
  obtain ⟨rest, rfl⟩ := h
  cases inBlock <;> rfl

/-- Where the marker of a comment has no `*`, every `*` of the line is in the text. -/
theorem star_mem_body (hbegins : form.Begins inBlock line) (hstart : form ≠ .blockStart)
    (hrest : form ≠ .blockRest) (h : '*' ∈ line) : '*' ∈ form.body line := by
  cases form with
  | docstring => exact Text.mem_trimWhere h (by decide)
  | blockStart => exact absurd rfl hstart
  | blockRest => exact absurd rfl hrest
  | line =>
    obtain ⟨rest, rfl⟩ := hbegins
    refine Text.mem_trimStartWhere ?_ (by decide)
    simpa using h
  | hash =>
    obtain ⟨rest, hrest⟩ := Option.isSome_iff_exists.mp hbegins
    show '*' ∈ (hashRest? line).getD []
    rw [hrest, Option.getD_some]
    obtain ⟨more, rfl, rfl⟩ := eq_of_hashRest? hrest
    exact Text.mem_trimStartWhere (by simpa using h) (by decide)

/-! ## Rows behind which a block is open -/

/-- The opening marker of a row is seen when the row is trimmed. -/
theorem opening_prefix_trim {indent : List Char} (h : ∀ c ∈ indent, isBlank c = true)
    (rest : List Char) : ['/', '*'] <+: trim (indent ++ '/' :: '*' :: rest) := by
  rw [Text.trim_append_left h]
  obtain ⟨before, after, heq, hbefore, hafter⟩ :=
    Text.exists_eq_append_trim ('/' :: '*' :: rest)
  -- Neither character of the marker can be in one of the blank ends.
  cases before with
  | cons c before =>
    obtain rfl : '/' = c := (List.cons.inj heq).1
    exact absurd (hbefore _ List.mem_cons_self) (by decide)
  | nil =>
    generalize trim ('/' :: '*' :: rest) = trimmed at heq ⊢
    match trimmed, heq with
    | [], heq =>
      obtain rfl : '/' :: '*' :: rest = after := heq
      exact absurd (hafter _ List.mem_cons_self) (by decide)
    | [_], heq =>
      obtain rfl : '*' :: rest = after := (List.cons.inj heq).2
      exact absurd (hafter _ List.mem_cons_self) (by decide)
    | _ :: _ :: more, heq =>
      cases heq
      exact ⟨more, rfl⟩

/-- A block is open behind a row that gives nothing if the row opens one, or if one was open before
and the row does not close it. Without a marker on the row nobody looks whether it does. -/
theorem openAfter_cases (hrow : textOf? inBlock row = none) (hopen : openAfter inBlock row = true) :
    (∃ indent rest, row = indent ++ '/' :: '*' :: rest ∧ (∀ c ∈ indent, isBlank c = true) ∧
      ¬ Closes rest) ∨
    (inBlock = true ∧ ¬ ['/', '*'] <+: trim row ∧
      (Closes row → ofLine? true (trim row) = none)) := by
  cases hform : ofLine? inBlock (trim row) with
  | none =>
    rw [openAfter_of_none hform] at hopen
    subst hopen
    refine Or.inr ⟨rfl, fun hopening => ?_, fun _ => hform⟩
    rw [ofLine?_of_opening hopening] at hform
    cases hform
  | some form =>
    rw [openAfter_of_some hform] at hopen
    have hbegins := begins_of_ofLine? hform
    have hempty : trim (form.body (trim row)) = [] := by
      rcases textOf?_eq_none_iff.mp hrow with hnone | ⟨other, hother, hempty⟩
      · rw [hform] at hnone
        cases hnone
      · rw [hform] at hother
        cases hother
        exact hempty
    by_cases hstart : form = .blockStart
    · -- The row opens a block. What is behind the marker does not close it.
      subst hstart
      obtain ⟨rest, hrest⟩ := hbegins
      obtain ⟨indent, after, heq, hindent, hafter⟩ := Text.exists_eq_append_trim row
      refine Or.inl ⟨indent, rest ++ after, ?_, hindent, ?_⟩
      · conv_lhs => rw [heq, ← hrest]
        simp
      · rw [closes_append_right hafter, Closes, ← untilBlockEnd_closed_iff]
        rw [← hrest] at hopen
        simpa [blockAfter] using hopen
    · have hnot : ¬ ['/', '*'] <+: trim row := by
        intro hopening
        rw [ofLine?_of_opening hopening] at hform
        exact hstart (Option.some.inj hform).symm
      by_cases hrest : form = .blockRest
      · -- The row goes on with a block and does not close it.
        subst hrest
        refine Or.inr ⟨hbegins.1, hnot, fun hcloses => ?_⟩
        rw [← closes_trim, Closes, ← untilBlockEnd_closed_iff] at hcloses
        simp [blockAfter, hcloses] at hopen
      · -- Any other comment has nothing in it, so no `*` either.
        have hopen : inBlock = true := by
          cases form <;> first | exact hopen | contradiction
        refine Or.inr ⟨hopen, hnot, fun hcloses => ?_⟩
        have hstar := star_mem_body hbegins hstart hrest (closes_trim.mpr hcloses).star_mem
        exact absurd (Text.trim_eq_nil_iff.mp hempty _ hstar) (by decide)

end Comment

open Comment (Closes closes_joinRows_iff openBehind textOf? ofLine?)

/-! ## Blocks and the rows behind them -/

/-- The rows `before` have an opening marker at the start of one of them, behind `indent`. It is the
last one, nothing behind it on its row closes it, and of the rows since then none that begins with
the marker of a comment does. -/
structure OpenedAt (before earlier : List (List Char)) (indent rest : List Char)
    (between : List (List Char)) : Prop where
  rows : before = earlier ++ (indent ++ '/' :: '*' :: rest) :: between
  indent : ∀ c ∈ indent, isBlank c = true
  rest : ¬ Closes rest
  last : ∀ row ∈ between, ¬ ['/', '*'] <+: trim row
  unmarked : ∀ row ∈ between, Closes row → ofLine? true (trim row) = none

/-- A block comment is open at the end of the rows: an opening marker starts one of them, and there
is no closing marker in the text from there to the end. -/
def StillOpen (before : List (List Char)) : Prop :=
  ∃ earlier indent rest between, before = earlier ++ (indent ++ '/' :: '*' :: rest) :: between ∧
    (∀ c ∈ indent, isBlank c = true) ∧ ¬ Closes (joinRows (rest :: between))

variable {before earlier between : List (List Char)} {indent rest row : List Char}

/-- A row that leaves the block open comes to the rows behind the opening marker. -/
theorem OpenedAt.concat (h : OpenedAt before earlier indent rest between)
    (hlast : ¬ ['/', '*'] <+: trim row) (hunmarked : Closes row → ofLine? true (trim row) = none) :
    OpenedAt (before ++ [row]) earlier indent rest (between ++ [row]) where
  rows := by rw [h.rows, List.append_assoc, List.cons_append]
  indent := h.indent
  rest := h.rest
  last := List.forall_mem_append.mpr ⟨h.last, List.forall_mem_singleton.mpr hlast⟩
  unmarked := List.forall_mem_append.mpr ⟨h.unmarked, List.forall_mem_singleton.mpr hunmarked⟩

/-- If a block is taken to be open behind some rows without a purpose, one of them opened it. -/
theorem exists_openedAt (hnone : purposeOfLines false before = none)
    (hopen : openBehind false before = true) :
    ∃ earlier indent rest between, OpenedAt before earlier indent rest between := by
  induction before using List.reverseRecOn with
  | nil => cases hopen
  | append_singleton before row ih =>
    rw [purposeOfLines_append, Option.or_eq_none_iff, purposeOfLines_cons,
      Option.or_eq_none_iff] at hnone
    obtain ⟨hbefore, hrow, -⟩ := hnone
    rw [Comment.openBehind_append] at hopen
    rcases Comment.openAfter_cases hrow hopen with
      ⟨indent, rest, rfl, hindent, hrest⟩ | ⟨hbehind, hlast, hunmarked⟩
    · exact ⟨before, indent, rest, [],
        { rows := rfl, indent := hindent, rest := hrest,
          last := List.forall_mem_nil _, unmarked := List.forall_mem_nil _ }⟩
    · obtain ⟨earlier, indent, rest, between, hopened⟩ := ih hbefore hbehind
      exact ⟨earlier, indent, rest, between ++ [row], hopened.concat hlast hunmarked⟩

/-- Whether the block is open is decided by the rows behind the last opening marker. -/
theorem OpenedAt.stillOpen_iff (h : OpenedAt before earlier indent rest between) :
    StillOpen before ↔ ∀ row ∈ between, ¬ Closes row := by
  constructor
  · rintro ⟨start, indent', rest', since, heq, hindent, hopen⟩ row hrow hcloses
    rw [closes_joinRows_iff] at hopen
    -- The other marker is not behind the last one, so the rows behind the last one are behind it.
    have hsuffix : between <:+ before :=
      h.rows ▸ (List.suffix_cons _ _).trans (List.suffix_append _ _)
    have hother : (indent' ++ '/' :: '*' :: rest') :: since <:+ before := ⟨start, heq.symm⟩
    rcases Nat.le_total (since.length + 1) between.length with hle | hle
    · have hmem := (List.suffix_of_suffix_length_le hother hsuffix hle).subset List.mem_cons_self
      exact h.last _ hmem (Comment.opening_prefix_trim hindent rest')
    · rcases List.suffix_cons_iff.mp (List.suffix_of_suffix_length_le hsuffix hother hle) with
        hall | hsince
      · have hmem : indent' ++ '/' :: '*' :: rest' ∈ between := hall ▸ List.mem_cons_self
        exact h.last _ hmem (Comment.opening_prefix_trim hindent rest')
      · exact hopen ⟨row, List.mem_cons_of_mem _ (hsince.subset hrow), hcloses⟩
  · intro hnone
    refine ⟨earlier, indent, rest, between, h.rows, h.indent, ?_⟩
    rw [closes_joinRows_iff, List.exists_mem_cons_iff]
    rintro (hcloses | ⟨row, hrow, hcloses⟩)
    · exact h.rest hcloses
    · exact hnone row hrow hcloses

/-! ## Purposes on lines that go on with a comment -/

/-- The purpose of a piece of code is found on a row: the rows before it give none. -/
structure IsFoundAt (code : String) (before : List (List Char)) (row : List Char)
    (after : List (List Char)) (purpose : String) : Prop where
  rows : rows code.toList = before ++ row :: after
  nothing : purposeOfLines false before = none
  found : textOf? (openBehind false before) row = some purpose.toList

theorem purposeLine_eq_some_iff {code purpose : String} : purposeLine code = some purpose ↔
    ∃ before row after, IsFoundAt code before row after purpose := by
  have htext : purposeLine code = some purpose ↔
      purposeOfLines false (rows code.toList) = some purpose.toList := by
    rw [purposeLine_eq_rows, Option.map_eq_some_iff]
    constructor
    · rintro ⟨text, htext, rfl⟩
      rw [htext, String.toList_ofList]
    · exact fun htext => ⟨_, htext, String.ofList_toList⟩
  rw [htext, purposeOfLines_eq_some_iff]
  constructor
  · rintro ⟨before, row, after, hrows, hnothing, hfound⟩
    exact ⟨before, row, after, hrows, hnothing, hfound⟩
  · rintro ⟨before, row, after, hrows, hnothing, hfound⟩
    exact ⟨before, row, after, hrows, hnothing, hfound⟩

/-- A purpose on a row that starts with `*` has a row with an opening marker before it. The block is
open still if and only if no row behind the last opening marker closes it, and the only rows that
can close it and leave the purpose where it is are those that begin with no marker. -/
theorem purposeLine_openBlock (code purpose : String) :
    (purposeLine code = some purpose ↔
      ∃ before row after, IsFoundAt code before row after purpose) ∧
    ∀ before row after, IsFoundAt code before row after purpose → ['*'] <+: trim row →
      ∃ earlier indent rest between, OpenedAt before earlier indent rest between ∧
        (StillOpen before ↔ ∀ line ∈ between, ¬ Closes line) := by
  refine ⟨purposeLine_eq_some_iff, fun before row after hfound hstar => ?_⟩
  obtain ⟨form, hform, -⟩ := Comment.textOf?_eq_some_iff.mp hfound.found
  rw [Comment.ofLine?_of_star hstar] at hform
  obtain ⟨hopen, -⟩ := Option.ite_none_right_eq_some.mp hform
  obtain ⟨earlier, indent, rest, between, hopened⟩ := exists_openedAt hfound.nothing hopen
  exact ⟨earlier, indent, rest, between, hopened, hopened.stillOpen_iff⟩

/-- A purpose on the second line of a block comment. -/
theorem purposeLine_openBlock_of_two :
    let code := "/**\n * Sum of two\n */"
    IsFoundAt code ["/**".toList] " * Sum of two".toList [" */".toList] "Sum of two" ∧
      ['*'] <+: trim " * Sum of two".toList ∧ StillOpen ["/**".toList] := by
  intro code
  have hfound : IsFoundAt code ["/**".toList] " * Sum of two".toList [" */".toList] "Sum of two" :=
    { rows := by decide +kernel, nothing := by decide +kernel, found := by decide +kernel }
  have hstar : ['*'] <+: trim " * Sum of two".toList := by decide +kernel
  obtain ⟨-, hopen⟩ := purposeLine_openBlock code "Sum of two"
  obtain ⟨earlier, indent, rest, between, hopened, hiff⟩ := hopen _ _ _ hfound hstar
  refine ⟨hfound, hstar, hiff.mpr ?_⟩
  -- There is one row only, so there is none behind the marker.
  have hbetween : between = [] := by
    have hlength : 1 = _ := congrArg List.length hopened.rows
    rw [List.length_append, List.length_cons] at hlength
    exact List.length_eq_zero_iff.mp (by omega)
  simp [hbetween]

/-- The block is closed on a line without a marker, and a line of code that starts with `*` is taken
for a part of it. -/
theorem purposeLine_of_closed :
    let code := "/*\nSum */\nlet c = a\n* b;"
    let before := ["/*".toList, "Sum */".toList, "let c = a".toList]
    purposeLine code = some "b;" ∧ IsFoundAt code before "* b;".toList [] "b;" ∧
      ['*'] <+: trim "* b;".toList ∧ ¬ StillOpen before := by
  intro code before
  have hunmarked : ∀ row ∈ ["Sum */".toList, "let c = a".toList],
      ofLine? true (trim row) = none := by decide +kernel
  have hopened : OpenedAt before [] [] [] ["Sum */".toList, "let c = a".toList] :=
    { rows := rfl
      indent := List.forall_mem_nil _
      rest := Comment.not_closes_of_blank (List.forall_mem_nil _)
      last := by decide +kernel
      unmarked := fun row hrow _ => hunmarked row hrow }
  refine ⟨by decide +kernel, ⟨by decide +kernel, by decide +kernel, by decide +kernel⟩,
    by decide +kernel, fun hopen => ?_⟩
  refine hopened.stillOpen_iff.mp hopen "Sum */".toList List.mem_cons_self ?_
  exact Comment.untilBlockEnd_closed_iff.mp (by decide +kernel)

end CodeSearch
