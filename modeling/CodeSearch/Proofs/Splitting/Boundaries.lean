import CodeSearch.Proofs.Splitting.Runs
import CodeSearch.Proofs.Splitting.Separators

/-!
# Windows begin and end between units

The units of a text are its paragraphs, the lines of a paragraph that is too long, the words of such
a line and the characters of such a word. The pieces of a text are its units that fit, and a window
begins and ends where a piece does.

- `UnitAt`: the units of a text, and where they stand.
- `unitAt_iff`: the pieces of a text that is too long are its units that fit.
- `IsInside`: a place that would cut a unit.
- `ranges_keep_units`: no window cuts a unit that fits.
-/

namespace CodeSearch

open Text

namespace Splitter

variable {size : Nat} {separators : List (List Char)} {text before unit : List Char}

/-! ## Units -/

/-- `unit` is a unit of the text, and stands behind `before`. -/
inductive UnitAt (size : Nat) :
    List (List Char) → List Char → List Char → List Char → Prop
  /-- The parts of the text at the first separator are units. -/
  | part {separator text unit : List Char} {later before after : List (List Char)}
      (cut : IsCut separator text (before ++ unit :: after)) :
      UnitAt size (separator :: later) text before.flatten unit
  /-- A part that is too long has units of its own, at the later separators. -/
  | within {separator text part front unit : List Char} {later before after : List (List Char)}
      (cut : IsCut separator text (before ++ part :: after)) (long : size < part.length)
      (inner : UnitAt size later part front unit) :
      UnitAt size (separator :: later) text (before.flatten ++ front) unit
  /-- Where no separator is left, the characters are the units. -/
  | character (before : List Char) (c : Char) (after : List Char) :
      UnitAt size [] (before ++ c :: after) before [c]

/-- A unit stands in the text. -/
theorem UnitAt.exists_after (h : UnitAt size separators text before unit) :
    ∃ after, text = before ++ unit ++ after := by
  induction h with
  | @part _ _ unit _ before after cut =>
    refine ⟨after.flatten, ?_⟩
    rw [← cut.tiles, List.flatten_append, List.flatten_cons, List.append_assoc]
  | @within _ _ part front unit _ before after cut _ _ ih =>
    obtain ⟨back, rfl⟩ := ih
    refine ⟨back ++ after.flatten, ?_⟩
    rw [← cut.tiles, List.flatten_append, List.flatten_cons]
    simp only [List.append_assoc]
  | character before c after => exact ⟨after, by simp⟩

/-! ## Units and pieces -/

/-- Cutting parts that are too long loses nothing. -/
theorem flatten_flatMap_cut (size : Nat) (later parts : List (List Char)) :
    (parts.flatMap fun piece =>
      if piece.length ≤ size then [piece] else cut size later piece).flatten = parts.flatten := by
  refine flatten_flatMap (fun part => ?_) parts
  split
  · exact List.flatten_singleton
  · exact flatten_cut size later part

/-- A unit that fits is a piece of a text that is too long. -/
theorem UnitAt.exists_piece (h : UnitAt size separators text before unit)
    (hseparators : [] ∉ separators) (hfits : unit.length ≤ size) (hlong : size < text.length) :
    ∃ front back, cut size separators text = front ++ unit :: back ∧ front.flatten = before := by
  induction h with
  | @part separator text unit later before after hcut =>
    have hsep : separator ≠ [] := fun hnil => hseparators (hnil ▸ List.mem_cons_self)
    rw [cut_of_long hsep hlong, ← (isCut_iff hsep).mp hcut, List.flatMap_append, List.flatMap_cons,
      if_pos hfits]
    exact ⟨_, _, rfl, flatten_flatMap_cut size later before⟩
  | @within separator text part front unit later before after hcut hpart _ ih =>
    have hsep : separator ≠ [] := fun hnil => hseparators (hnil ▸ List.mem_cons_self)
    obtain ⟨ahead, behind, hpieces, hahead⟩ :=
      ih (fun hnil => hseparators (List.mem_cons_of_mem _ hnil)) hfits hpart
    rw [cut_of_long hsep hlong, ← (isCut_iff hsep).mp hcut, List.flatMap_append, List.flatMap_cons,
      if_neg (Nat.not_le.mpr hpart), hpieces, List.append_assoc, ← List.append_assoc]
    refine ⟨_, _, rfl, ?_⟩
    rw [List.flatten_append, flatten_flatMap_cut, hahead]
  | character before c after =>
    refine ⟨before.map fun c => [c], after.map fun c => [c], ?_, flatten_cut size [] before⟩
    rw [cut, List.map_append, List.map_cons]

/-- A member of the joined lists is a member of one of them, and the lists before that one are
joined before it. -/
theorem exists_of_flatMap_eq {α β : Type} {f : α → List β} {list : List α} {x : β}
    {front back : List β} (h : list.flatMap f = front ++ x :: back) :
    ∃ before member after ahead behind, list = before ++ member :: after ∧
      f member = ahead ++ x :: behind ∧ front = before.flatMap f ++ ahead := by
  induction list generalizing front with
  | nil => simp at h
  | cons member list ih =>
    rw [List.flatMap_cons] at h
    rcases List.append_eq_append_iff.mp h with ⟨more, rfl, hmore⟩ | ⟨more, hmember, hmore⟩
    · obtain ⟨before, other, after, ahead, behind, rfl, hother, rfl⟩ := ih hmore
      exact ⟨member :: before, other, after, ahead, behind, rfl, hother, by simp⟩
    · cases more with
      | nil =>
        obtain ⟨before, other, after, ahead, behind, rfl, hother, hahead⟩ :=
          ih (List.nil_append (x :: back) ▸ hmore.symm)
        refine ⟨member :: before, other, after, ahead, behind, rfl, hother, ?_⟩
        rw [List.flatMap_cons, hmember, List.append_assoc, ← hahead, List.append_nil,
          List.append_nil]
      | cons y more =>
        obtain ⟨rfl, -⟩ := List.cons.inj hmore
        exact ⟨[], member, list, front, more, rfl, hmember, rfl⟩

/-- A piece of a text that is too long is one of its units. -/
theorem unitAt_of_cut {front back : List (List Char)} (hseparators : [] ∉ separators)
    (hlong : size < text.length) (h : cut size separators text = front ++ unit :: back) :
    UnitAt size separators text front.flatten unit := by
  induction separators generalizing text front back with
  | nil =>
    rw [cut] at h
    obtain ⟨before, rest, rfl, rfl, hrest⟩ := List.map_eq_append_iff.mp h
    obtain ⟨c, after, rfl, rfl, -⟩ := List.map_eq_cons_iff.mp hrest
    have hbefore : (before.map fun c => [c]).flatten = before := flatten_cut size [] before
    rw [hbefore]
    exact .character before c after
  | cons separator later ih =>
    have hsep : separator ≠ [] := fun hnil => hseparators (hnil ▸ List.mem_cons_self)
    rw [cut_of_long hsep hlong] at h
    obtain ⟨before, part, after, ahead, behind, hparts, hpart, rfl⟩ := exists_of_flatMap_eq h
    have hcut := (isCut_iff hsep).mpr hparts.symm
    rw [List.flatten_append, flatten_flatMap_cut]
    split at hpart
    · -- the part fits
      rcases List.append_eq_singleton_iff.mp hpart.symm with ⟨rfl, hunit⟩ | ⟨-, hnil⟩
      · obtain ⟨rfl, -⟩ := List.cons.inj hunit
        rw [List.flatten_nil, List.append_nil]
        exact .part hcut
      · exact absurd hnil (List.cons_ne_nil _ _)
    · next hpartLong =>
      have hpartLong := Nat.not_le.mp hpartLong
      exact .within hcut hpartLong
        (ih (fun hnil => hseparators (List.mem_cons_of_mem _ hnil)) hpartLong hpart)

/-- The pieces of a text that is too long are its units that fit. -/
theorem unitAt_iff (hsize : 1 ≤ size) (hseparators : [] ∉ separators)
    (hlong : size < text.length) :
    (UnitAt size separators text before unit ∧ unit.length ≤ size) ↔
      ∃ front back, cut size separators text = front ++ unit :: back ∧ front.flatten = before := by
  constructor
  · rintro ⟨hunit, hfits⟩
    exact hunit.exists_piece hseparators hfits hlong
  · rintro ⟨front, back, hcut, rfl⟩
    have hmem : unit ∈ cut size separators text :=
      hcut ▸ List.mem_append_right _ List.mem_cons_self
    exact ⟨unitAt_of_cut hseparators hlong hcut, length_le_of_mem_cut hsize hmem⟩

/-! ## Places -/

/-- A place, counted in bytes, that lies strictly inside `unit` where it stands behind `before`. -/
def IsInside (before unit : List Char) (place : Nat) : Prop :=
  Utf8.size before < place ∧ place < Utf8.size before + Utf8.size unit

/-- A text does not begin or end inside one of its units. -/
theorem UnitAt.not_isInside_ends (h : UnitAt size separators text before unit) :
    ¬ IsInside before unit 0 ∧ ¬ IsInside before unit (Utf8.size text) := by
  obtain ⟨after, rfl⟩ := h.exists_after
  refine ⟨fun hinside => absurd hinside.1 (Nat.not_lt_zero _), ?_⟩
  rintro ⟨-, hahead⟩
  rw [Utf8.size_append, Utf8.size_append] at hahead
  omega

/-- A place between pieces is not inside one of them. -/
theorem not_isInside_take (front back : List (List Char)) (unit : List Char) (count : Nat) :
    ¬ IsInside front.flatten unit (Utf8.size ((front ++ unit :: back).take count).flatten) := by
  rintro ⟨hbehind, hahead⟩
  by_cases hcount : count ≤ front.length
  · have hfront : Utf8.size (front.take count).flatten ≤ Utf8.size front.flatten := by
      conv_rhs => rw [← List.take_append_drop count front, List.flatten_append, Utf8.size_append]
      exact Nat.le_add_right _ _
    rw [List.take_append_of_le_length hcount] at hbehind
    omega
  · obtain ⟨more, rfl⟩ := Nat.exists_eq_add_of_lt (Nat.not_le.mp hcount)
    have htake : (front ++ unit :: back).take (front.length + more + 1) =
        front ++ unit :: back.take more := by
      rw [Nat.add_assoc, List.take_length_add_append, List.take_succ_cons]
    rw [htake, List.flatten_append, List.flatten_cons, Utf8.size_append, Utf8.size_append] at hahead
    omega

theorem windowText_take_place (offset count : Nat) (texts : List (List Char)) :
    windowText ((place offset texts).take count) = (texts.take count).flatten := by
  induction texts generalizing offset count with
  | nil => simp [place]
  | cons text texts ih =>
    cases count with
    | zero => rfl
    | succ count =>
      rw [place, List.take_succ_cons, windowText_cons, ih, List.take_succ_cons, List.flatten_cons]

/-- The windows of a text that is too long begin and end between its pieces. -/
theorem exists_take_of_mem_ranges (splitter : Splitter) {code : String}
    (hlong : splitter.size < code.length) {range : Nat × Nat} (h : range ∈ splitter.ranges code) :
    let pieces := cut splitter.size Splitter.separators code.toList
    ∃ first stop, range =
      (Utf8.size (pieces.take first).flatten, Utf8.size (pieces.take stop).flatten) := by
  intro pieces
  obtain ⟨all, hwindows, hwithin, -⟩ := exists_runs splitter (String.length_toList ▸ hlong)
  obtain ⟨window, hwindow, rfl⟩ := List.mem_map.mp h
  rw [hwindows] at hwindow
  obtain ⟨⟨first, stop⟩, hbounds, rfl⟩ := List.mem_map.mp hwindow
  obtain ⟨hbegins, hstop⟩ := hwithin _ hbounds
  refine ⟨first, stop, ?_⟩
  rw [windowRange_run (placed_place 0 _) hbegins hstop, windowText_take_place,
    windowText_take_place]

/-- The one window of a text that fits begins and ends with the text. -/
theorem ranges_of_fits (splitter : Splitter) {code : String} (h : code.length ≤ splitter.size) :
    splitter.ranges code = [(0, Utf8.size code.toList)] := by
  rw [ranges, windows, if_pos (String.length_toList ▸ h)]
  simp [windowRange, Piece.stop]

/-- No window of a text begins or ends inside one of its units, if the unit is no longer than a
window may be: not inside a paragraph, nor inside a line of a longer paragraph, nor inside a word of
a longer line. These units are the pieces of a text that is too long. That pieces are found by
looking for a separator first, and going on to the next one where there is none, makes no difference
to them. -/
theorem ranges_keep_units (splitter : Splitter) (code : String) :
    (∀ before unit, UnitAt splitter.size Splitter.separators code.toList before unit →
      unit.length ≤ splitter.size → ∀ range ∈ splitter.ranges code,
        ¬ IsInside before unit range.1 ∧ ¬ IsInside before unit range.2) ∧
    (splitter.size < code.length → ∀ before unit,
      (UnitAt splitter.size Splitter.separators code.toList before unit ∧
          unit.length ≤ splitter.size) ↔
        ∃ front back, cut splitter.size Splitter.separators code.toList = front ++ unit :: back ∧
          front.flatten = before) ∧
    ∀ separator, separator ≠ [] → ∀ later text, splitter.size < text.length →
      cut splitter.size (separator :: later) text = (splitAfter separator text).flatMap fun piece =>
        if piece.length ≤ splitter.size then [piece] else cut splitter.size later piece := by
  refine ⟨?_, ?_, fun separator hsep later text hlong => cut_of_long hsep hlong later⟩
  · intro before unit hunit hfits range hrange
    by_cases hshort : code.length ≤ splitter.size
    · rw [ranges_of_fits splitter hshort, List.mem_singleton] at hrange
      rw [hrange]
      exact hunit.not_isInside_ends
    · have hlong := Nat.not_le.mp hshort
      obtain ⟨front, back, hpieces, rfl⟩ :=
        hunit.exists_piece (by decide) hfits (String.length_toList ▸ hlong)
      obtain ⟨first, stop, rfl⟩ := exists_take_of_mem_ranges splitter hlong hrange
      rw [hpieces]
      exact ⟨not_isInside_take front back unit first, not_isInside_take front back unit stop⟩
  · intro hlong before unit
    exact unitAt_iff splitter.one_le_size (by decide) (String.length_toList ▸ hlong)

/-- A paragraph that is too long has a line that is too long, and the third word of that line is a
unit that fits. -/
theorem ranges_keep_units_of_word :
    let splitter := ofBounds 8 5
    let code := "ab\n\ncd ef gh ij\nkl\n"
    let before := "ab\n\ncd ef ".toList
    let word := "gh ".toList
    UnitAt splitter.size Splitter.separators code.toList before word ∧
    splitter.ranges code = [(0, 7), (4, 10), (7, 13), (10, 16), (13, 19)] ∧
    ∀ range ∈ splitter.ranges code,
      ¬ IsInside before word range.1 ∧ ¬ IsInside before word range.2 := by
  intro splitter code before word
  have hparagraphs : IsCut ['\n', '\n'] code.toList
      (["ab\n\n".toList] ++ "cd ef gh ij\nkl\n".toList :: []) :=
    (isCut_iff (by decide)).mpr (by decide +kernel)
  have hlines : IsCut ['\n'] "cd ef gh ij\nkl\n".toList
      ([] ++ "cd ef gh ij\n".toList :: ["kl\n".toList]) :=
    (isCut_iff (by decide)).mpr (by decide +kernel)
  have hwords : IsCut [' '] "cd ef gh ij\n".toList
      (["cd ".toList, "ef ".toList] ++ word :: ["ij\n".toList]) :=
    (isCut_iff (by decide)).mpr (by decide +kernel)
  have hunit : UnitAt splitter.size Splitter.separators code.toList before word :=
    .within hparagraphs (by decide +kernel) (.within hlines (by decide +kernel) (.part hwords))
  refine ⟨hunit, by decide +kernel, ?_⟩
  exact (ranges_keep_units splitter code).1 before word hunit (by decide +kernel)

end Splitter

end CodeSearch
