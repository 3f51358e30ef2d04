import CodeSearch.Proofs.Splitting.Pieces

/-!
# Packing pieces into windows

`Packed` says what packing is to do, without the loop that does it: every window but the last one is
full, and hands on to its successor the longest run at its end that the overlap and the first new
piece allow.

- `Carried`: the run that a full window hands on.
- `Packed`: the windows of a run of pieces.
- `shed_spec`: dropping pieces from the start of a window leaves what is handed on, and the count of
  characters stays right.
- `packFrom_packed`, `pack_packed`: the loop makes such windows. Its invariant is that the count is
  the number of characters of the open window.
-/

namespace CodeSearch

namespace Splitter

/-- The pieces `kept` are what a full window hands on in front of the piece `next`: the longest run
at its end that has at most `overlap` characters and leaves room for `next`. -/
structure Carried (splitter : Splitter) (window kept : List Piece) (next : Piece) : Prop where
  suffix : kept <:+ window
  within_overlap : length kept ≤ splitter.overlap
  leaves_room : length kept + next.text.length ≤ splitter.size
  longest : ∀ run, run <:+ window → length run ≤ splitter.overlap →
    length run + next.text.length ≤ splitter.size → run <:+ kept

/-- A full window does not hand on all of its pieces. -/
theorem Carried.dropped_ne_nil {splitter : Splitter} {dropped kept : List Piece} {next : Piece}
    (h : Carried splitter (dropped ++ kept) kept next)
    (full : splitter.size < length (dropped ++ kept) + next.text.length) : dropped ≠ [] := by
  rintro rfl
  have := h.leaves_room
  rw [List.nil_append] at full
  omega

/-- The windows of a run of pieces. -/
inductive Packed (splitter : Splitter) : List Piece → List (List Piece) → Prop
  /-- The last window takes all that is left. -/
  | last {window : List Piece} (nonempty : window ≠ [])
      (fits : length window ≤ splitter.size) : Packed splitter window [window]
  /-- A window that is full hands on `kept` and loses `dropped`; the one after it starts with what
  was handed on and the first new piece. -/
  | slide {dropped kept rest window : List Piece} {next : Piece} {windows : List (List Piece)}
      (fits : length (dropped ++ kept) ≤ splitter.size)
      (full : splitter.size < length (dropped ++ kept) + next.text.length)
      (carried : Carried splitter (dropped ++ kept) kept next)
      (grows : kept ++ [next] <+: window)
      (later : Packed splitter (kept ++ next :: rest) (window :: windows)) :
      Packed splitter (dropped ++ (kept ++ next :: rest)) ((dropped ++ kept) :: window :: windows)

/-! ## Shedding -/

/-- A window of `length window` characters sheds down to what it hands on. -/
theorem shed_spec (splitter : Splitter) {next : Piece}
    (hnext : next.text.length ≤ splitter.size) (window : List Piece) :
    ∃ dropped kept, window = dropped ++ kept ∧ Carried splitter window kept next ∧
      splitter.shed next.text.length (length window) window = (kept, length kept) := by
  induction window with
  | nil =>
    refine ⟨[], [], rfl, ?_, rfl⟩
    exact
      { suffix := List.suffix_rfl
        within_overlap := Nat.zero_le _
        leaves_room := by simpa using hnext
        longest := fun run hrun _ _ => hrun }
  | cons piece window ih =>
    rw [shed]
    split
    · next htight =>
      obtain ⟨dropped, kept, rfl, hcarried, hshed⟩ := ih
      refine ⟨piece :: dropped, kept, rfl, ?_, ?_⟩
      · refine
          { suffix := hcarried.suffix.trans (List.suffix_cons _ _)
            within_overlap := hcarried.within_overlap
            leaves_room := hcarried.leaves_room
            longest := fun run hrun hoverlap hroom => ?_ }
        rcases List.suffix_cons_iff.mp hrun with rfl | hrun
        · -- the whole window is too long
          rw [Bool.or_eq_true, decide_eq_true_iff, decide_eq_true_iff] at htight
          omega
        · exact hcarried.longest run hrun hoverlap hroom
      · rw [length_cons, Nat.add_sub_cancel_left]
        exact hshed
    · next hloose =>
      rw [Bool.or_eq_true, decide_eq_true_iff, decide_eq_true_iff, not_or, Nat.not_lt,
        Nat.not_lt] at hloose
      refine ⟨[], piece :: window, rfl, ?_, rfl⟩
      exact
        { suffix := List.suffix_rfl
          within_overlap := hloose.1
          leaves_room := hloose.2
          longest := fun run hrun _ _ => hrun }

/-! ## Packing -/

/-- Behind an open window whose characters are counted right, the loop makes the windows of the open
window and the pieces still to come, and the first of them starts with the open window. -/
theorem packFrom_packed (splitter : Splitter) {current pieces : List Piece} {total : Nat}
    (hcurrent : current ≠ []) (htotal : total = length current)
    (hfits : length current ≤ splitter.size)
    (hpieces : ∀ piece ∈ pieces, piece.text.length ≤ splitter.size) :
    ∃ window windows, packFrom splitter current total pieces = window :: windows ∧
      current.reverse <+: window ∧
      Packed splitter (current.reverse ++ pieces) (window :: windows) := by
  induction pieces generalizing current total with
  | nil =>
    refine ⟨current.reverse, [], ?_, List.prefix_rfl, ?_⟩
    · rw [packFrom, if_neg (by simpa using hcurrent)]
    · rw [List.append_nil]
      exact .last (by simpa using hcurrent) (by simpa using hfits)
  | cons piece pieces ih =>
    have hpiece := hpieces piece List.mem_cons_self
    have hrest : ∀ piece ∈ pieces, piece.text.length ≤ splitter.size :=
      fun other hother => hpieces other (List.mem_cons_of_mem _ hother)
    rw [packFrom]
    split
    · next hfull =>
      rw [Bool.and_eq_true, decide_eq_true_iff] at hfull
      -- The open window is full: it is closed, and the next one is opened with what it hands on.
      obtain ⟨dropped, kept, hsplit, hcarried, hshed⟩ :=
        shed_spec splitter hpiece current.reverse
      rw [length_reverse, ← htotal] at hshed
      obtain ⟨window, windows, hpack, hgrows, hlater⟩ :=
        ih (List.cons_ne_nil piece kept.reverse)
          (show length kept + piece.text.length = _ by simp [Nat.add_comm])
          (by simpa [Nat.add_comm] using hcarried.leaves_room) hrest
      rw [List.reverse_cons, List.reverse_reverse] at hgrows hlater
      refine ⟨current.reverse, window :: windows, ?_, List.prefix_rfl, ?_⟩
      · rw [hshed]
        exact congrArg _ hpack
      · have hlength : length (dropped ++ kept) = length current := by
          rw [← hsplit, length_reverse]
        rw [List.append_assoc] at hlater
        rw [hsplit, List.append_assoc]
        rw [hsplit] at hcarried
        exact .slide (hlength ▸ hfits) (by rw [hlength, ← htotal]; exact hfull.1) hcarried hgrows
          hlater
    · next hroom =>
      have hfits' : length (piece :: current) ≤ splitter.size := by
        rw [Bool.and_eq_true, decide_eq_true_iff, not_and] at hroom
        have hle : total + piece.text.length ≤ splitter.size :=
          Nat.not_lt.mp fun hlt => hroom hlt (by simpa using hcurrent)
        rw [length_cons]
        omega
      obtain ⟨window, windows, hpack, hgrows, hpacked⟩ :=
        ih (List.cons_ne_nil piece current)
          (show total + piece.text.length = _ by rw [length_cons, htotal, Nat.add_comm]) hfits'
          hrest
      rw [List.reverse_cons] at hgrows hpacked
      refine ⟨window, windows, hpack, (List.prefix_append _ _).trans hgrows, ?_⟩
      rw [List.append_assoc] at hpacked
      exact hpacked

/-- The loop makes the windows of the pieces. -/
theorem pack_packed (splitter : Splitter) {pieces : List Piece} (hne : pieces ≠ [])
    (hpieces : ∀ piece ∈ pieces, piece.text.length ≤ splitter.size) :
    Packed splitter pieces (splitter.pack pieces) := by
  obtain ⟨piece, rest, rfl⟩ := List.exists_cons_of_ne_nil hne
  have hfirst : splitter.pack (piece :: rest) =
      packFrom splitter [piece] (length [piece]) rest := by
    rw [pack, packFrom, if_neg (by simp), length_cons, length_nil, Nat.zero_add, Nat.add_zero]
  obtain ⟨window, windows, hpack, _, hpacked⟩ :=
    packFrom_packed splitter (List.cons_ne_nil piece []) rfl
      (by simpa using hpieces piece List.mem_cons_self)
      (fun other hother => hpieces other (List.mem_cons_of_mem _ hother))
  rw [hfirst, hpack]
  exact hpacked

end Splitter

end CodeSearch
