import CodeSearch.Proofs.Splitting.Counting
import Mathlib.Data.List.Chain
import Mathlib.Data.String.Basic

/-!
# Windows cover the text

The windows of a text overlap, but they cover it without a gap, each one begins and ends behind the
one before, and none is longer than allowed. All of it follows from `Packed` by induction along the
windows.

- `Packed.located`: where a window lies in the text of the pieces.
- `Packed.isChain_ranges`, `Packed.rejoinFrom_eq`: how consecutive windows lie to each other, and
  what they give when they are put together again.
- `Tiling`: everything a caller may rely on; `tiling_ofBounds` says that splitting provides it.
-/

namespace CodeSearch

open Text

/-! ## Bytes of a string -/

namespace Text.Utf8

theorem size_eq_utf8Len (text : List Char) : size text = String.utf8Len text := by
  induction text with
  | nil => rfl
  | cons c text ih => rw [size_cons, String.utf8Len_cons, ih, Nat.add_comm]

theorem utf8ByteSize_eq_size (code : String) : code.utf8ByteSize = size code.toList := by
  rw [size_eq_utf8Len, String.utf8Len_toList]

/-- The bytes of a middle part hold the middle part. -/
theorem extract_eq (before middle after : List Char) :
    String.Pos.Raw.extract (String.ofList (before ++ middle ++ after)) ⟨size before⟩
      ⟨size before + size middle⟩ = String.ofList middle := by
  rw [size_eq_utf8Len, size_eq_utf8Len]
  exact String.extract_of_valid before middle after

/-- The end of a first part is a boundary between characters. -/
theorem isValid_size (before after : List Char) :
    String.Pos.Raw.IsValid (String.ofList (before ++ after)) ⟨size before⟩ := by
  rw [String.Pos.Raw.isValid_iff_exists_append]
  refine ⟨String.ofList before, String.ofList after, String.ofList_append, ?_⟩
  rw [String.rawEndPos_ofList, size_eq_utf8Len]

end Text.Utf8

namespace Splitter

variable {splitter : Splitter} {pieces window : List Piece} {windows : List (List Piece)}
  {offset : Nat}

/-! ## Where windows lie -/

theorem Packed.ne_nil (h : Packed splitter pieces windows) : ∀ window ∈ windows, window ≠ [] := by
  induction h with
  | last nonempty => simpa using nonempty
  | @slide dropped kept rest window next windows fits full carried grows later ih =>
    intro other hother
    rcases List.mem_cons.mp hother with rfl | hother
    · -- a window without pieces would not be full
      intro hnil
      have := carried.leaves_room
      rw [hnil] at full
      rw [length_nil] at full
      omega
    · exact ih other hother

theorem Packed.exists_cons (h : Packed splitter pieces windows) :
    ∃ window rest, windows = window :: rest := by
  cases h with
  | last => exact ⟨_, _, rfl⟩
  | slide => exact ⟨_, _, rfl⟩

theorem Packed.length_le (h : Packed splitter pieces windows) :
    ∀ window ∈ windows, length window ≤ splitter.size := by
  induction h with
  | last _ fits => simpa using fits
  | slide fits _ _ _ _ ih =>
    intro other hother
    rcases List.mem_cons.mp hother with rfl | hother
    · exact fits
    · exact ih other hother

/-- The first window starts with the first piece. -/
theorem Packed.head_isPrefix (h : Packed splitter pieces (window :: windows)) :
    window <+: pieces := by
  cases h with
  | last => exact List.prefix_rfl
  | slide =>
    rw [← List.append_assoc]
    exact List.prefix_append _ _

/-- The text of a window is a part of the text of the pieces, and its range says which one. -/
theorem Packed.located (h : Packed splitter pieces windows) (hplaced : Placed offset pieces) :
    ∀ window ∈ windows, ∃ before after,
      windowText pieces = before ++ windowText window ++ after ∧
        windowRange window =
          (offset + Utf8.size before,
            offset + Utf8.size before + Utf8.size (windowText window)) := by
  induction h generalizing offset with
  | last nonempty =>
    intro window hwindow
    rw [List.mem_singleton] at hwindow
    subst hwindow
    exact ⟨[], [], by simp, by simpa using hplaced.windowRange_eq nonempty⟩
  | @slide dropped kept rest window next windows fits full carried grows later ih =>
    have hne := (Packed.slide fits full carried grows later).ne_nil _ List.mem_cons_self
    obtain ⟨_, hlater⟩ := (placed_append offset dropped _).mp hplaced
    have hfirst : Placed offset (dropped ++ kept) := by
      rw [← List.append_assoc] at hplaced
      exact ((placed_append offset _ _).mp hplaced).1
    intro other hother
    rcases List.mem_cons.mp hother with rfl | hother
    · refine ⟨[], windowText (next :: rest), ?_, by simpa using hfirst.windowRange_eq hne⟩
      simp only [windowText_append, List.nil_append, List.append_assoc]
    · obtain ⟨before, after, htext, hrange⟩ := ih hlater other hother
      refine ⟨windowText dropped ++ before, after, ?_, ?_⟩
      · rw [windowText_append, htext]
        simp only [List.append_assoc]
      · rw [hrange, Utf8.size_append]
        simp only [Nat.add_assoc]

/-- The first window lies at the start of the pieces. -/
theorem Packed.windowRange_head (h : Packed splitter pieces (window :: windows))
    (hplaced : Placed offset pieces) :
    windowRange window = (offset, offset + Utf8.size (windowText window)) := by
  obtain ⟨rest, rfl⟩ := h.head_isPrefix
  exact ((placed_append offset window rest).mp hplaced).1.windowRange_eq
    (h.ne_nil window List.mem_cons_self)

/-- The last window ends with the last piece. -/
theorem Packed.getLast_range (h : Packed splitter pieces windows) (hplaced : Placed offset pieces) :
    (windows.map windowRange).getLast?.map Prod.snd =
      some (offset + Utf8.size (windowText pieces)) := by
  induction h generalizing offset with
  | last nonempty => simp [hplaced.windowRange_eq nonempty]
  | @slide dropped kept rest window next windows fits full carried grows later ih =>
    have hlast := ih ((placed_append offset dropped _).mp hplaced).2
    rw [List.map_cons, List.map_cons, List.getLast?_cons_cons, ← List.map_cons, hlast,
      windowText_append dropped, Utf8.size_append (windowText dropped), Nat.add_assoc]

/-! ## Consecutive windows -/

/-- A window begins and ends behind the window before it, and leaves no gap. -/
def Follows (range next : Nat × Nat) : Prop :=
  range.1 < next.1 ∧ range.2 < next.2 ∧ next.1 ≤ range.2

theorem Packed.isChain_ranges (h : Packed splitter pieces windows) (hplaced : Placed offset pieces)
    (htext : ∀ piece ∈ pieces, piece.text ≠ []) :
    (windows.map windowRange).IsChain Follows := by
  induction h generalizing offset with
  | last => exact .singleton _
  | @slide dropped kept rest window next windows fits full carried grows later ih =>
    obtain ⟨_, hlater⟩ := (placed_append offset dropped _).mp hplaced
    have hfirst := (Packed.slide fits full carried grows later).windowRange_head hplaced
    have hnext := later.windowRange_head hlater
    refine .cons_cons ?_
      (ih hlater fun piece hpiece => htext piece (List.mem_append_right _ hpiece))
    -- The next window begins later because something was dropped, and ends later because a new
    -- piece came in.
    have hdropped : 0 < Utf8.size (windowText dropped) := by
      refine Nat.lt_of_lt_of_le ?_ (Utf8.length_le_size _)
      exact List.length_pos_iff.mpr
        (windowText_ne_nil (fun piece hpiece => htext piece (List.mem_append_left _ hpiece))
          (carried.dropped_ne_nil full))
    have hnew : Utf8.size (windowText kept) < Utf8.size (windowText window) := by
      obtain ⟨more, rfl⟩ := grows
      have htextNext : 0 < next.text.length :=
        List.length_pos_iff.mpr (htext next (by simp))
      have := Utf8.length_le_size next.text
      simp only [windowText_append, windowText_cons, windowText_nil, Utf8.size_append,
        Utf8.size_nil]
      omega
    rw [hfirst, hnext, windowText_append, Utf8.size_append, Follows]
    dsimp only
    omega

/-- Windows put together again: of each one the part behind the bytes that are covered already. -/
def rejoinFrom (covered : Nat) : List ((Nat × Nat) × String) → String
  | [] => ""
  | (range, window) :: rest =>
    String.Pos.Raw.extract window ⟨covered - range.1⟩ window.rawEndPos ++ rejoinFrom range.2 rest

/-- Windows put together again, given the bytes that each of them covers. -/
def rejoin (ranges : List (Nat × Nat)) (windows : List String) : String :=
  rejoinFrom 0 (ranges.zip windows)

/-- Behind a part that lies within the first window, the windows give the rest of the text. -/
theorem Packed.rejoinFrom_eq (h : Packed splitter pieces (window :: windows))
    (hplaced : Placed offset pieces) {before rest : List Char}
    (htext : windowText pieces = before ++ rest) (hbefore : before <+: windowText window) :
    rejoinFrom (offset + Utf8.size before)
      ((window :: windows).map fun window =>
        (windowRange window, String.ofList (windowText window))) =
      String.ofList rest := by
  generalize hall : window :: windows = all at h
  induction h generalizing offset before rest window windows with
  | @last only nonempty =>
    obtain ⟨rfl, rfl⟩ := List.cons.inj hall
    obtain ⟨new, hnew⟩ := hbefore
    have hrest : rest = new := List.append_cancel_left (htext.symm.trans hnew.symm)
    rw [List.map_singleton, rejoinFrom, hplaced.windowRange_eq nonempty, Nat.add_sub_cancel_left,
      String.rawEndPos_ofList, ← Utf8.size_eq_utf8Len, ← hnew, Utf8.size_append]
    have hextract := Utf8.extract_eq before new []
    rw [List.append_nil] at hextract
    rw [hextract, hrest]
    exact String.append_empty
  | @slide dropped kept later window' next windows' fits full carried grows packed ih =>
    obtain ⟨rfl, rfl⟩ := List.cons.inj hall
    obtain ⟨_, hlater⟩ := (placed_append offset dropped _).mp hplaced
    have hfirst := (Packed.slide fits full carried grows packed).windowRange_head hplaced
    obtain ⟨new, hnew⟩ := hbefore
    have hsplit : before ++ rest = before ++ (new ++ windowText (next :: later)) := by
      calc before ++ rest = windowText (dropped ++ (kept ++ next :: later)) := htext.symm
        _ = windowText (dropped ++ kept) ++ windowText (next :: later) := by
          rw [← List.append_assoc, windowText_append]
        _ = before ++ (new ++ windowText (next :: later)) := by rw [← hnew, List.append_assoc]
    have hrest := List.append_cancel_left hsplit
    -- The next window is rejoined behind what both windows hold.
    have hkept : windowText kept <+: windowText window' := by
      obtain ⟨more, rfl⟩ := grows
      rw [List.append_assoc, windowText_append]
      exact List.prefix_append _ _
    have hih := ih hlater (windowText_append kept (next :: later)) hkept rfl
    rw [List.map_cons, rejoinFrom, hfirst, Nat.add_sub_cancel_left, String.rawEndPos_ofList,
      ← Utf8.size_eq_utf8Len, ← hnew, Utf8.size_append]
    have hextract := Utf8.extract_eq before new []
    rw [List.append_nil] at hextract
    rw [hextract, hrest, String.ofList_append, ← hih, ← Utf8.size_append, hnew, windowText_append,
      Utf8.size_append, ← Nat.add_assoc]

/-! ## The windows of a text -/

/-- The pieces of a text have its characters. -/
theorem windowText_cut (size : Nat) (separators : List (List Char)) (text : List Char) :
    windowText (place 0 (cut size separators text)) = text := by
  rw [windowText_place, flatten_cut]

/-- The windows of a text that is too long are those of its pieces. -/
theorem windows_packed_of_long (splitter : Splitter) {text : List Char}
    (hlong : splitter.size < text.length) :
    Packed splitter (place 0 (cut splitter.size separators text)) (splitter.windows text) := by
  rw [windows, if_neg (Nat.not_le.mpr hlong)]
  refine pack_packed splitter ?_ ?_
  · intro hnil
    have htext := windowText_cut splitter.size separators text
    rw [hnil, windowText_nil] at htext
    simp [← htext] at hlong
  · intro piece hpiece
    exact length_le_of_mem_cut splitter.one_le_size (text_mem_of_mem_place hpiece)

/-- The windows of a text are those of pieces that tile it, also when the text is not cut. -/
theorem windows_packed (splitter : Splitter) (text : List Char) :
    ∃ pieces, Placed 0 pieces ∧ windowText pieces = text ∧
      Packed splitter pieces (splitter.windows text) ∧
      (text ≠ [] → ∀ piece ∈ pieces, piece.text ≠ []) := by
  by_cases hfits : text.length ≤ splitter.size
  · rw [windows, if_pos hfits]
    refine ⟨[⟨0, text⟩], ⟨rfl, trivial⟩, by simp, ?_, by simp⟩
    exact .last (List.cons_ne_nil _ _) (by simpa using hfits)
  · refine ⟨_, placed_place 0 _, windowText_cut splitter.size separators text,
      windows_packed_of_long splitter (Nat.not_le.mp hfits), ?_⟩
    intro _ piece hpiece
    exact ne_nil_of_mem_cut (text_mem_of_mem_place hpiece)

/-- What the ranges and the windows of a text are good for. -/
structure Tiling (splitter : Splitter) (code : String) (ranges : List (Nat × Nat))
    (windows : List String) : Prop where
  nonempty : ranges ≠ []
  /-- Every range lies between two boundaries of characters. -/
  boundaries : ∀ range ∈ ranges, range.1 ≤ range.2 ∧
    String.Pos.Raw.IsValid code ⟨range.1⟩ ∧ String.Pos.Raw.IsValid code ⟨range.2⟩
  starts : ranges.head?.map Prod.fst = some 0
  ends : ranges.getLast?.map Prod.snd = some code.utf8ByteSize
  follow : ranges.IsChain Follows
  /-- A window is the text that its range holds. -/
  texts : windows = ranges.map fun range =>
    String.Pos.Raw.extract code ⟨range.1⟩ ⟨range.2⟩
  rejoined : rejoin ranges windows = code
  bounded : ∀ window ∈ windows, window.length ≤ splitter.size
  single : windows.length = 1 ↔ code.length ≤ splitter.size
  /-- Where the bytes of the text can be counted, packing counts without overflow. -/
  counted : ∀ limit, code.utf8ByteSize < limit →
    splitter.windowsBelow limit code.toList = some (splitter.windows code.toList)

/-- A single window takes the whole text. -/
theorem Packed.length_le_of_single (h : Packed splitter pieces windows)
    (hone : windows.length = 1) : length pieces ≤ splitter.size := by
  cases h with
  | last _ fits => exact fits
  | slide => simp at hone

/-- A window of a text is a part of the text, and its range says which one. -/
theorem windows_located (splitter : Splitter) (code : String) :
    ∀ window ∈ splitter.windows code.toList, ∃ before after,
      code = String.ofList (before ++ windowText window ++ after) ∧
        windowRange window =
          (Utf8.size before, Utf8.size before + Utf8.size (windowText window)) := by
  obtain ⟨pieces, hplaced, htext, hpacked, _⟩ := windows_packed splitter code.toList
  intro window hwindow
  obtain ⟨before, after, hcode, hrange⟩ := hpacked.located hplaced window hwindow
  refine ⟨before, after, ?_, by simpa using hrange⟩
  rw [← hcode, htext, String.ofList_toList]

/-- Splitting gives the windows of the text, and the ranges in which they lie. -/
theorem tiling (splitter : Splitter) (code : String) :
    Tiling splitter code (splitter.ranges code) (splitter.split code) := by
  obtain ⟨pieces, hplaced, htext, hpacked, hpieces⟩ := windows_packed splitter code.toList
  have hlocated := windows_located splitter code
  obtain ⟨window, windows, hwindows⟩ := hpacked.exists_cons
  have hhead := hwindows ▸ hpacked
  have hlength : code.length = length pieces := by
    rw [← String.length_toList, ← htext, length_windowText]
  refine
    { nonempty := ?_, boundaries := ?_, starts := ?_, ends := ?_, follow := ?_, texts := ?_,
      rejoined := ?_, bounded := ?_, single := ?_, counted := ?_ }
  · rw [ranges, hwindows]
    exact List.cons_ne_nil _ _
  · intro range hrange
    obtain ⟨window, hwindow, rfl⟩ := List.mem_map.mp hrange
    obtain ⟨before, after, hcode, hrange⟩ := hlocated window hwindow
    rw [hrange, hcode]
    refine ⟨Nat.le_add_right _ _, ?_, ?_⟩
    · rw [List.append_assoc]
      exact Utf8.isValid_size before _
    · rw [← Utf8.size_append]
      exact Utf8.isValid_size _ after
  · rw [ranges, hwindows, List.map_cons, List.head?_cons, hhead.windowRange_head hplaced]
    rfl
  · rw [ranges, hpacked.getLast_range hplaced, htext, Nat.zero_add, Utf8.utf8ByteSize_eq_size]
  · -- The one window of the empty text has an empty piece, and no successor.
    by_cases hempty : code.toList = []
    · rw [ranges, Splitter.windows, if_pos (by simp [hempty])]
      exact .singleton _
    · exact hpacked.isChain_ranges hplaced (hpieces hempty)
  · rw [split, ranges, List.map_map]
    refine List.map_congr_left fun window hwindow => ?_
    obtain ⟨before, after, hcode, hrange⟩ := hlocated window hwindow
    rw [Function.comp_apply, hrange, hcode]
    exact (Utf8.extract_eq before _ after).symm
  · have hjoin := hhead.rejoinFrom_eq hplaced (List.nil_append (windowText pieces)).symm
      List.nil_prefix
    rw [htext, String.ofList_toList] at hjoin
    rw [rejoin, ranges, split, hwindows, List.zip_map']
    exact hjoin
  · intro text htext
    obtain ⟨window, hwindow, rfl⟩ := List.mem_map.mp htext
    rw [String.length_ofList, length_windowText]
    exact hpacked.length_le window hwindow
  · rw [split, List.length_map, hlength]
    constructor
    · exact fun hone => hpacked.length_le_of_single hone
    · intro hfits
      rw [← hlength, ← String.length_toList] at hfits
      rw [Splitter.windows, if_pos hfits]
      rfl
  · intro limit hlimit
    refine windowsBelow_eq splitter (Nat.lt_of_le_of_lt ?_ hlimit)
    rw [Utf8.utf8ByteSize_eq_size]
    exact Utf8.length_le_size _

/-- Splitting a text covers it by windows, whatever bounds are asked for. -/
theorem tiling_ofBounds (size overlap : Nat) (code : String) :
    (ofBounds size overlap).size = max size 1 ∧
      (ofBounds size overlap).overlap = min overlap (max size 1 - 1) ∧
      Tiling (ofBounds size overlap) code ((ofBounds size overlap).ranges code)
        ((ofBounds size overlap).split code) :=
  ⟨rfl, rfl, tiling _ code⟩

end Splitter

end CodeSearch
