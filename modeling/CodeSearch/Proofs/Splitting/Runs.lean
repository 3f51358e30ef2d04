import CodeSearch.Proofs.Splitting.Windows

/-!
# Windows are runs of pieces

A window of a long text is a run of consecutive pieces, and windows slide over the pieces: the next
one begins with the last pieces of the one before and takes in at least one that is new.

- `run`: the pieces between two places.
- `Slides`: how far a window moves to its successor.
- `Packed.exists_bounds`: the places between which the windows lie.
- `windows_slide`: the windows of a text, what they share, and what is new in each of them.
-/

namespace CodeSearch

open Text

namespace Splitter

variable {splitter : Splitter} {pieces : List Piece} {windows : List (List Piece)}
  {bounds next : Nat × Nat}

/-! ## Runs -/

/-- The pieces from the first of two places up to the second one. -/
def run (pieces : List Piece) (bounds : Nat × Nat) : List Piece :=
  (pieces.take bounds.2).drop bounds.1

theorem run_eq {before middle : List Piece} (after : List Piece)
    (h : pieces = before ++ middle ++ after) :
    run pieces (before.length, (before ++ middle).length) = middle := by
  rw [h, run, List.take_left, List.drop_left]

theorem length_run_le (pieces : List Piece) (bounds : Nat × Nat) :
    (run pieces bounds).length ≤ bounds.2 - bounds.1 := by
  rw [run, List.length_drop, List.length_take]
  omega

theorem getElem?_run (pieces : List Piece) (bounds : Nat × Nat) {place : Nat}
    (hbegins : bounds.1 ≤ place) (hstop : place < bounds.2) :
    (run pieces bounds)[place - bounds.1]? = pieces[place]? := by
  rw [run, List.getElem?_drop, Nat.add_sub_cancel' hbegins, List.getElem?_take_of_lt hstop]

/-- A run takes the pieces before it up to the second place. -/
theorem take_append_run (pieces : List Piece) {first stop : Nat} (h : first ≤ stop) :
    pieces.take first ++ run pieces (first, stop) = pieces.take stop := by
  have hbegin : pieces.take first = (pieces.take stop).take first := by
    rw [List.take_take, Nat.min_eq_left h]
  rw [hbegin, run, List.take_append_drop]

/-- The bytes of a run lie behind those of the pieces before it. -/
theorem windowRange_run {first stop : Nat} (hplaced : Placed 0 pieces) (h : first < stop)
    (hwithin : stop ≤ pieces.length) :
    windowRange (run pieces (first, stop)) =
      (Utf8.size (windowText (pieces.take first)), Utf8.size (windowText (pieces.take stop))) := by
  have hrun := take_append_run pieces (Nat.le_of_lt h)
  rw [← List.take_append_drop stop pieces, placed_append, ← hrun, placed_append] at hplaced
  have hne : run pieces (first, stop) ≠ [] := by
    rw [← List.length_pos_iff, run, List.length_drop, List.length_take]
    omega
  rw [hplaced.1.2.windowRange_eq hne, ← hrun, windowText_append, Utf8.size_append, Nat.zero_add]

/-! ## Sliding -/

/-- The window between `bounds` is full, and its successor lies between `next`. -/
structure Slides (splitter : Splitter) (pieces : List Piece) (bounds next : Nat × Nat) : Prop where
  begins : bounds.1 < next.1
  touches : next.1 ≤ bounds.2
  grows : bounds.2 < next.2
  within : next.2 ≤ pieces.length
  /-- The piece behind the window has no room in it, and the window hands on to its successor the
  longest run at its end that can be followed by this piece. -/
  full : ∃ piece, pieces[bounds.2]? = some piece ∧
    splitter.size < length (run pieces bounds) + piece.text.length ∧
    Carried splitter (run pieces bounds) (run pieces (next.1, bounds.2)) piece

/-- A full window slides by what it does not hand on. -/
theorem slides_of_carried {all before dropped kept rest : List Piece} {next : Piece} {stop : Nat}
    (hall : all = before ++ (dropped ++ kept) ++ next :: rest)
    (full : splitter.size < length (dropped ++ kept) + next.text.length)
    (carried : Carried splitter (dropped ++ kept) kept next)
    (hgrows : (before ++ (dropped ++ kept)).length < stop) (hstop : stop ≤ all.length) :
    Slides splitter all (before.length, (before ++ (dropped ++ kept)).length)
      ((before ++ dropped).length, stop) := by
  have hwindow : run all (before.length, (before ++ (dropped ++ kept)).length) = dropped ++ kept :=
    run_eq (next :: rest) hall
  have hshared : run all ((before ++ dropped).length, (before ++ (dropped ++ kept)).length) =
      kept := by
    rw [← List.append_assoc] at hall ⊢
    exact run_eq (next :: rest) hall
  have hdropped := List.length_pos_iff.mpr (carried.dropped_ne_nil full)
  refine
    { begins := ?_
      touches := ?_
      grows := hgrows
      within := hstop
      full := ⟨next, ?_, ?_, ?_⟩ }
  · show before.length < (before ++ dropped).length
    rw [List.length_append]
    exact Nat.lt_add_of_pos_right hdropped
  · show (before ++ dropped).length ≤ (before ++ (dropped ++ kept)).length
    rw [← List.append_assoc]
    exact (List.prefix_append _ _).length_le
  · rw [hall, List.getElem?_append_right (Nat.le_refl _), Nat.sub_self]
    rfl
  · rwa [hwindow]
  · rwa [hwindow, hshared]

/-- The windows of pieces that stand behind others are runs of all of them. The first one starts
where these pieces start, the last one ends with the last piece, and each one slides to the next. -/
theorem Packed.exists_bounds (h : Packed splitter pieces windows) (before : List Piece) :
    ∃ stop rest, windows = ((before.length, stop) :: rest).map (run (before ++ pieces)) ∧
      (before.length < stop ∧ stop ≤ (before ++ pieces).length) ∧
      ((before.length, stop) :: rest).getLast?.map Prod.snd = some (before ++ pieces).length ∧
      ((before.length, stop) :: rest).IsChain (Slides splitter (before ++ pieces)) := by
  induction h generalizing before with
  | @last window nonempty =>
    refine ⟨(before ++ window).length, [], ?_, ⟨?_, Nat.le_refl _⟩, rfl, .singleton _⟩
    · rw [List.map_singleton, run_eq [] (List.append_nil _).symm]
    · rw [List.length_append]
      exact Nat.lt_add_of_pos_right (List.length_pos_iff.mpr nonempty)
  | @slide dropped kept rest window next windows fits full carried grows later ih =>
    obtain ⟨stop, more, hwindows, ⟨-, hstop⟩, hlast, hchain⟩ := ih (before ++ dropped)
    generalize hall : before ++ (dropped ++ (kept ++ next :: rest)) = all
    rw [List.append_assoc, hall] at hwindows hstop hlast hchain
    have hsplit : all = before ++ (dropped ++ kept) ++ next :: rest := by
      rw [← hall]
      simp only [List.append_assoc]
    -- The next window takes in what was handed on and the next piece, so it ends later.
    have hgrows : (before ++ (dropped ++ kept)).length < stop := by
      have hlonger := grows.length_le
      rw [(List.cons.inj hwindows).1, List.length_append, List.length_singleton] at hlonger
      have hlength := Nat.lt_of_lt_of_le hlonger (length_run_le all _)
      simp only [List.length_append] at hlength ⊢
      omega
    have hslides := slides_of_carried hsplit full carried hgrows hstop
    refine ⟨(before ++ (dropped ++ kept)).length, ((before ++ dropped).length, stop) :: more,
      ?_, ⟨?_, ?_⟩, ?_, .cons_cons hslides hchain⟩
    · rw [List.map_cons, run_eq (next :: rest) hsplit, hwindows]
    · exact Nat.lt_of_lt_of_le hslides.begins hslides.touches
    · exact Nat.le_trans (Nat.le_of_lt hgrows) hstop
    · rw [List.getLast?_cons_cons, hlast]

/-- Windows that slide lie within the pieces, and none is empty, if this is so of the first one. -/
theorem within_of_slides {first : Nat × Nat} {rest : List (Nat × Nat)}
    (h : (first :: rest).IsChain (Slides splitter pieces))
    (hfirst : first.1 < first.2 ∧ first.2 ≤ pieces.length) :
    ∀ bounds ∈ first :: rest, bounds.1 < bounds.2 ∧ bounds.2 ≤ pieces.length := by
  refine h.induction _ _ ?_ fun _ => hfirst
  intro bounds next hslides _
  exact ⟨Nat.lt_of_le_of_lt hslides.touches hslides.grows, hslides.within⟩

/-- The windows of a text that is too long are runs of its pieces, from the first one to the last
one, and each window slides to the next. -/
theorem exists_runs (splitter : Splitter) {text : List Char}
    (hlong : splitter.size < text.length) :
    let pieces := place 0 (cut splitter.size separators text)
    ∃ all : List (Nat × Nat), splitter.windows text = all.map (run pieces) ∧
      (∀ bounds ∈ all, bounds.1 < bounds.2 ∧ bounds.2 ≤ pieces.length) ∧
      all.head?.map Prod.fst = some 0 ∧ all.getLast?.map Prod.snd = some pieces.length ∧
      all.IsChain (Slides splitter pieces) := by
  intro pieces
  obtain ⟨stop, rest, hwindows, hfirst, hlast, hchain⟩ :=
    (windows_packed_of_long splitter hlong).exists_bounds []
  exact ⟨_, hwindows, within_of_slides hchain hfirst, rfl, hlast, hchain⟩

/-! ## What windows share -/

/-- Stops grow along windows that slide. -/
theorem pairwise_of_slides {all : List (Nat × Nat)} (h : all.IsChain (Slides splitter pieces)) :
    all.Pairwise fun bounds next => bounds.2 < next.2 := by
  let grows : Nat × Nat → Nat × Nat → Prop := fun bounds next => bounds.2 < next.2
  have : Trans grows grows grows := ⟨fun h₁ h₂ => Nat.lt_trans h₁ h₂⟩
  exact List.isChain_iff_pairwise.mp (h.imp fun _ _ hslides => hslides.grows)

/-- The text that a window shares with its successor is that of the pieces it hands on. -/
theorem Slides.extract_eq {code : String} (h : Slides splitter pieces bounds next)
    (hplaced : Placed 0 pieces) (htext : windowText pieces = code.toList) :
    String.Pos.Raw.extract code ⟨(windowRange (run pieces next)).1⟩
      ⟨(windowRange (run pieces bounds)).2⟩ =
      String.ofList (windowText (run pieces (next.1, bounds.2))) := by
  obtain ⟨first, stop⟩ := bounds
  obtain ⟨nextFirst, nextStop⟩ := next
  have hshared := take_append_run pieces h.touches
  have hcode : code = String.ofList (windowText (pieces.take nextFirst) ++
      windowText (run pieces (nextFirst, stop)) ++ windowText (pieces.drop stop)) := by
    rw [← windowText_append, hshared, ← windowText_append, List.take_append_drop, htext,
      String.ofList_toList]
  rw [windowRange_run hplaced (Nat.lt_of_le_of_lt h.touches h.grows) h.within,
    windowRange_run hplaced (Nat.lt_of_lt_of_le h.begins h.touches)
      (Nat.le_trans (Nat.le_of_lt h.grows) h.within), ← hshared,
    windowText_append, Utf8.size_append]
  conv_lhs => rw [hcode]
  exact Utf8.extract_eq _ _ _

/-- A window ends behind all windows before it, so its last piece is in none of them. -/
theorem exists_new {all before after : List (Nat × Nat)} (hnodup : pieces.Nodup)
    (h : all.IsChain (Slides splitter pieces))
    (hwithin : ∀ bounds ∈ all, bounds.1 < bounds.2 ∧ bounds.2 ≤ pieces.length)
    (hall : all = before ++ bounds :: after) :
    ∃ piece ∈ run pieces bounds, ∀ earlier ∈ before, piece ∉ run pieces earlier := by
  obtain ⟨hbegins, hstop⟩ := hwithin bounds (by simp [hall])
  obtain ⟨piece, hpiece⟩ : ∃ piece, pieces[bounds.2 - 1]? = some piece :=
    ⟨_, List.getElem?_eq_getElem (by omega)⟩
  refine ⟨piece, ?_, ?_⟩
  · rw [← getElem?_run pieces bounds (by omega) (by omega)] at hpiece
    exact List.mem_of_getElem? hpiece
  · intro earlier hearlier hrun
    have hgrows := (List.pairwise_append.mp (hall ▸ pairwise_of_slides h)).2.2 earlier hearlier
      bounds List.mem_cons_self
    have hbehind : piece ∈ pieces.drop earlier.2 := by
      rw [← Nat.add_sub_cancel' (Nat.le_sub_one_of_lt hgrows), ← List.getElem?_drop] at hpiece
      exact List.mem_of_getElem? hpiece
    exact List.disjoint_take_drop hnodup (Nat.le_refl _) (List.mem_of_mem_drop hrun) hbehind

/-- The windows of a text that is too long are runs of its pieces, from the first piece to the last.
None is longer than allowed, and one that is not the last is closed because the next piece does not
fit. Its successor starts with the longest run at its end that has at most `overlap` characters and
leaves room for that piece. So consecutive windows share no more text than the overlap allows, and
every window has a piece that no window before it has. -/
theorem windows_slide (splitter : Splitter) {code : String} (hlong : splitter.size < code.length) :
    let pieces := place 0 (cut splitter.size separators code.toList)
    let windows := splitter.windows code.toList
    (∃ all : List (Nat × Nat), windows = all.map (run pieces) ∧
      (∀ bounds ∈ all, bounds.1 < bounds.2 ∧ bounds.2 ≤ pieces.length) ∧
      all.head?.map Prod.fst = some 0 ∧ all.getLast?.map Prod.snd = some pieces.length ∧
      all.IsChain (Slides splitter pieces)) ∧
    (∀ window ∈ windows, length window ≤ splitter.size) ∧
    (splitter.ranges code).IsChain (fun range next =>
      (String.Pos.Raw.extract code ⟨next.1⟩ ⟨range.2⟩).length ≤ splitter.overlap) ∧
    ∀ before window after, windows = before ++ window :: after →
      ∃ piece ∈ window, ∀ earlier ∈ before, piece ∉ earlier := by
  intro pieces windows
  have hlength : splitter.size < code.toList.length := String.length_toList ▸ hlong
  obtain ⟨all, hwindows, hwithin, hfirst, hlast, hchain⟩ := exists_runs splitter hlength
  have hplaced : Placed 0 pieces := placed_place 0 _
  have htext : windowText pieces = code.toList := windowText_cut _ _ _
  have hnodup : pieces.Nodup := hplaced.nodup fun piece hpiece =>
    ne_nil_of_mem_cut (text_mem_of_mem_place hpiece)
  refine ⟨⟨all, hwindows, hwithin, hfirst, hlast, hchain⟩,
    (windows_packed_of_long splitter hlength).length_le, ?_, ?_⟩
  · have hranges : splitter.ranges code =
        all.map fun bounds => windowRange (run pieces bounds) := by
      rw [ranges, hwindows, List.map_map]
      rfl
    rw [hranges, List.isChain_map]
    refine hchain.imp fun bounds next hslides => ?_
    rw [hslides.extract_eq hplaced htext, String.length_ofList, length_windowText]
    obtain ⟨_, -, -, hcarried⟩ := hslides.full
    exact hcarried.within_overlap
  · intro before window after hsplit
    obtain ⟨before, others, hall, rfl, hothers⟩ :=
      List.map_eq_append_iff.mp (hwindows.symm.trans hsplit)
    obtain ⟨bounds, after, rfl, rfl, rfl⟩ := List.map_eq_cons_iff.mp hothers
    obtain ⟨piece, hpiece, hnew⟩ := exists_new hnodup hchain hwithin hall
    refine ⟨piece, hpiece, fun window hwindow => ?_⟩
    obtain ⟨earlier, hearlier, rfl⟩ := List.mem_map.mp hwindow
    exact hnew earlier hearlier

/-- Words are handed on as long as they are short enough. The last window starts with the third word
and is the only one with the fourth. -/
theorem windows_slide_of_words :
    let splitter := ofBounds 8 5
    let code := "ab cd ef ghij\n"
    let pieces := place 0 (["ab ", "cd ", "ef ", "ghij\n"].map String.toList)
    splitter.size < code.length ∧
    (∃ all : List (Nat × Nat), splitter.windows code.toList = all.map (run pieces) ∧
      all.length = 3 ∧ all.IsChain (Slides splitter pieces)) ∧
    (splitter.ranges code).IsChain (fun range next =>
      (String.Pos.Raw.extract code ⟨next.1⟩ ⟨range.2⟩).length ≤ splitter.overlap) ∧
    ∃ piece ∈ run pieces (2, 4), ∀ earlier ∈ [run pieces (0, 2), run pieces (1, 3)],
      piece ∉ earlier := by
  intro splitter code pieces
  have hlong : splitter.size < code.length := by decide +kernel
  have hpieces : place 0 (cut splitter.size separators code.toList) = pieces := by decide +kernel
  have hwindows : splitter.windows code.toList =
      [run pieces (0, 2), run pieces (1, 3), run pieces (2, 4)] := by
    decide +kernel
  obtain ⟨⟨all, hall, -, -, -, hchain⟩, -, hshared, hnew⟩ := windows_slide splitter hlong
  rw [hpieces] at hall hchain
  refine ⟨hlong, ⟨all, hall, ?_, hchain⟩, hshared, hnew _ _ [] hwindows⟩
  rw [← List.length_map (run pieces), ← hall, hwindows]
  rfl

end Splitter

end CodeSearch
