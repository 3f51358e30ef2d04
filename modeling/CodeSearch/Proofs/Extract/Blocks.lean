import CodeSearch.Extract.Block
import Mathlib.Order.Bounds.Basic
import Mathlib.Order.Lattice.Nat

/-!
# Where blocks end

The scan for the end of a block waits for the first line with an opening brace and then keeps one
running count. What it finds can be said without the scan: the first line from there on up to which
no more braces are opened than closed, or the last line if there is none.

- `netBraces`: opening braces less closing braces on some lines that follow each other.
- `openings`, `closings`: the lines at which a block can open, and those at which it can be closed.
- `blockEnd_eq_least`, `blockEnd_of_no_closing`: the end of a block is the least of its closings, or
  the last line.
- `blockEnd_congr`: the end of a block depends on the counts of braces only.
- `blockEnd_le_blockEnd`: a block that starts and opens within a block ends within it.
-/

namespace CodeSearch.Extract

variable {lines : List (List Char)} {start first last : Nat}

/-! ## Braces on several lines -/

/-- Opening braces less closing braces on the lines from `first` on and before `stop`. -/
def netBraces (lines : List (List Char)) (first stop : Nat) : Int :=
  braceBalance ((lines.drop first).take (stop - first)).flatten

theorem braceBalance_append (text more : List Char) :
    braceBalance (text ++ more) = braceBalance text + braceBalance more := by
  simp only [braceBalance, List.count_append]
  omega

theorem netBraces_add {middle stop : Nat} (hfirst : first ≤ middle) (hmiddle : middle ≤ stop) :
    netBraces lines first stop = netBraces lines first middle + netBraces lines middle stop := by
  have hlength : stop - first = (middle - first) + (stop - middle) := by omega
  have hdrop : (lines.drop first).drop (middle - first) = lines.drop middle := by
    rw [List.drop_drop, Nat.add_sub_cancel' hfirst]
  rw [netBraces, netBraces, netBraces, hlength, List.take_add, hdrop, List.flatten_append,
    braceBalance_append]

/-- Lines that come later do not count. -/
theorem netBraces_append {stop : Nat} (h : stop ≤ lines.length) (more : List (List Char)) :
    netBraces (lines ++ more) first stop = netBraces lines first stop := by
  by_cases hfirst : first ≤ stop
  · rw [netBraces, netBraces, List.drop_append_of_le_length (by omega),
      List.take_append_of_le_length (by rw [List.length_drop]; omega)]
  · have hnone : stop - first = 0 := by omega
    rw [netBraces, netBraces, hnone, List.take_zero, List.take_zero]

theorem netBraces_cons (line : List Char) (stop : Nat) :
    netBraces (line :: lines) 0 (stop + 1) = braceBalance line + netBraces lines 0 stop := by
  show braceBalance (line ++ (lines.take stop).flatten) = _
  rw [braceBalance_append]
  rfl

theorem netBraces_drop (stop : Nat) :
    netBraces (lines.drop first) 0 stop = netBraces lines first (first + stop) := by
  rw [netBraces, netBraces, List.drop_zero, Nat.sub_zero, Nat.add_sub_cancel_left]

/-! ## The scan -/

/-- The running count stops at the first line at whose end it is not positive. -/
theorem closesAfter_eq_some_iff {depth : Int} {index : Nat} :
    closesAfter depth lines = some index ↔
      index < lines.length ∧ depth + netBraces lines 0 (index + 1) ≤ 0 ∧
        ∀ earlier < index, 0 < depth + netBraces lines 0 (earlier + 1) := by
  induction lines generalizing depth index with
  | nil => simp [closesAfter]
  | cons line lines ih =>
    have hnone : netBraces lines 0 0 = 0 := rfl
    rw [closesAfter]
    by_cases hclosed : depth + braceBalance line ≤ 0
    · -- The scan stops here, and so no later line can be the first one.
      rw [if_pos hclosed, Option.some_inj]
      cases index with
      | zero => simp [netBraces_cons, hnone, hclosed]
      | succ index =>
        simp only [Nat.forall_lt_succ_left, netBraces_cons, hnone]
        omega
    · rw [if_neg hclosed]
      cases index with
      | zero => simp [netBraces_cons, hnone, hclosed]
      | succ index =>
        simp only [Option.map_eq_some_iff, Nat.succ_inj, exists_eq_right, ih, List.length_cons,
          Nat.succ_lt_succ_iff, Nat.forall_lt_succ_left, netBraces_cons, hnone, ← add_assoc]
        constructor
        · rintro ⟨hlt, hnet, hopen⟩
          exact ⟨hlt, hnet, by omega, hopen⟩
        · rintro ⟨hlt, hnet, -, hopen⟩
          exact ⟨hlt, hnet, hopen⟩

theorem closing_of_opens {line : List Char} (h : '\x7b' ∈ line) :
    closing (line :: lines) = closesAfter 0 (line :: lines) := by
  rw [closing, opensBlock, if_pos (List.contains_iff_mem.mpr h)]

/-- Lines without an opening brace are passed over. -/
theorem closing_append {before : List (List Char)} (h : ∀ line ∈ before, '\x7b' ∉ line) :
    closing (before ++ lines) = (closing lines).map (before.length + ·) := by
  induction before with
  | nil => simp
  | cons line before ih =>
    have hline : ¬ opensBlock line = true := fun hopens =>
      h line List.mem_cons_self (List.contains_iff_mem.mp hopens)
    rw [List.cons_append, closing, if_neg hline, ih fun row hrow => h row (by simp [hrow]),
      Option.map_map]
    congr 1
    funext index
    simp only [Function.comp, List.length_cons]
    omega

/-! ## Where a block opens and where it is closed -/

/-- A line that holds an opening brace. -/
def OpensAt (lines : List (List Char)) (index : Nat) : Prop :=
  ∃ line, lines[index]? = some line ∧ '\x7b' ∈ line

instance (lines : List (List Char)) (index : Nat) : Decidable (OpensAt lines index) :=
  decidable_of_iff (lines[index]?.any opensBlock = true) (by
    simp [OpensAt, opensBlock, Option.any_eq_true])

/-- The lines from `start` on at which a block can open. -/
def openings (lines : List (List Char)) (start : Nat) : Set Nat :=
  {index | start ≤ index ∧ OpensAt lines index}

/-- The lines at which a block that opens at line `first` can be closed: no more braces are opened
than closed from there to the end of the line. -/
def closings (lines : List (List Char)) (first : Nat) : Set Nat :=
  {index | first ≤ index ∧ index < lines.length ∧ netBraces lines first (index + 1) ≤ 0}

/-- The scan waits for the first opening and counts from there. -/
theorem closing_drop (h : IsLeast (openings lines start) first) :
    closing (lines.drop start) =
      (closesAfter 0 (lines.drop first)).map (first - start + ·) := by
  obtain ⟨⟨hle, line, hline, hopens⟩, hleast⟩ := h
  have hfirst : lines.drop first = line :: lines.drop (first + 1) := by
    obtain ⟨hlt, rfl⟩ := List.getElem?_eq_some_iff.mp hline
    exact List.drop_eq_getElem_cons hlt
  have hsplit : lines.drop start =
      (lines.drop start).take (first - start) ++ lines.drop first := by
    have hdrop := List.take_append_drop (first - start) (lines.drop start)
    rw [List.drop_drop, Nat.add_sub_cancel' hle] at hdrop
    exact hdrop.symm
  have hlength : ((lines.drop start).take (first - start)).length = first - start := by
    have := (List.getElem?_eq_some_iff.mp hline).1
    rw [List.length_take, List.length_drop]
    omega
  rw [hsplit, closing_append ?_, hlength, hfirst, closing_of_opens hopens]
  intro row hrow hbrace
  obtain ⟨index, hindex, hget⟩ := List.mem_take_iff_getElem.mp hrow
  rw [List.getElem_drop] at hget
  have hrowAt : lines[start + index]? = some row := List.getElem?_eq_some_iff.mpr ⟨_, hget⟩
  have := hleast ⟨Nat.le_add_right start index, row, hrowAt, hbrace⟩
  omega

theorem closesAfter_drop_eq_some_iff {index : Nat} :
    closesAfter 0 (lines.drop first) = some index ↔
      IsLeast (closings lines first) (first + index) := by
  rw [closesAfter_eq_some_iff, List.length_drop]
  simp only [netBraces_drop, zero_add]
  constructor
  · rintro ⟨hlt, hnet, hopen⟩
    refine ⟨⟨Nat.le_add_right first index, by omega, hnet⟩, ?_⟩
    rintro other ⟨hle, -, hother⟩
    by_contra hlate
    obtain ⟨earlier, rfl⟩ := Nat.exists_eq_add_of_le hle
    have := hopen earlier (by omega)
    rw [← add_assoc] at this
    omega
  · rintro ⟨⟨-, hlt, hnet⟩, hleast⟩
    refine ⟨by omega, hnet, ?_⟩
    intro earlier hearlier
    by_contra hclosed
    have := hleast ⟨Nat.le_add_right first earlier, by omega, not_lt.mp hclosed⟩
    omega

/-! ## The end of a block -/

theorem exists_isLeast {indexes : Set Nat} (h : indexes.Nonempty) :
    ∃ index, IsLeast indexes index :=
  ⟨sInf indexes, Nat.sInf_mem h, fun _ => Nat.sInf_le⟩

/-- A block that opens and can be closed ends on the first line that closes it. -/
theorem blockEnd_eq_least (hfirst : IsLeast (openings lines start) first)
    (hlast : IsLeast (closings lines first) last) : blockEnd lines start = last := by
  have hle := hfirst.1.1
  obtain ⟨index, rfl⟩ := Nat.exists_eq_add_of_le hlast.1.1
  rw [blockEnd, closing_drop hfirst, closesAfter_drop_eq_some_iff.mpr hlast]
  show start + (first - start + index) = first + index
  omega

/-- A block that is never closed runs to the last line. -/
theorem blockEnd_of_closings_eq_empty (hfirst : IsLeast (openings lines start) first)
    (h : closings lines first = ∅) : blockEnd lines start = lines.length - 1 := by
  have hnone : closesAfter 0 (lines.drop first) = none := by
    cases hindex : closesAfter 0 (lines.drop first) with
    | none => rfl
    | some index =>
      have hmem := (closesAfter_drop_eq_some_iff.mp hindex).1
      rw [h] at hmem
      exact hmem.elim
  rw [blockEnd, closing_drop hfirst, hnone]
  rfl

/-- A block that never opens runs to the last line. -/
theorem blockEnd_of_openings_eq_empty (h : openings lines start = ∅) :
    blockEnd lines start = lines.length - 1 := by
  have hplain : ∀ row ∈ lines.drop start, '\x7b' ∉ row := by
    intro row hrow hbrace
    obtain ⟨index, hlt, hget⟩ := List.mem_drop_iff_getElem.mp hrow
    have hmem : start + index ∈ openings lines start :=
      ⟨Nat.le_add_right start index, row, List.getElem?_eq_some_iff.mpr ⟨by omega, hget⟩, hbrace⟩
    rw [h] at hmem
    exact hmem.elim
  have hnone : closing (lines.drop start) = none := by
    rw [← List.append_nil (lines.drop start), closing_append hplain]
    rfl
  rw [blockEnd, hnone]

/-- A block is closed, or it runs to the last line. -/
theorem blockEnd_cases (lines : List (List Char)) (start : Nat) :
    (∃ first, IsLeast (openings lines start) first ∧
      IsLeast (closings lines first) (blockEnd lines start)) ∨
    blockEnd lines start = lines.length - 1 := by
  rcases (openings lines start).eq_empty_or_nonempty with hnone | hsome
  · exact Or.inr (blockEnd_of_openings_eq_empty hnone)
  · obtain ⟨first, hfirst⟩ := exists_isLeast hsome
    rcases (closings lines first).eq_empty_or_nonempty with hnone | hsome
    · exact Or.inr (blockEnd_of_closings_eq_empty hfirst hnone)
    · obtain ⟨last, hlast⟩ := exists_isLeast hsome
      rw [blockEnd_eq_least hfirst hlast]
      exact Or.inl ⟨first, hfirst, hlast⟩

/-- A block ends on one of the lines, and not before it starts. -/
theorem blockEnd_bounds (h : start < lines.length) :
    start ≤ blockEnd lines start ∧ blockEnd lines start < lines.length := by
  rcases blockEnd_cases lines start with ⟨first, hfirst, hlast⟩ | hlast
  · exact ⟨le_trans hfirst.1.1 hlast.1.1, hlast.1.2.1⟩
  · omega

/-! ## More lines -/

theorem opensAt_append_iff {index : Nat} (h : index < lines.length) (more : List (List Char)) :
    OpensAt (lines ++ more) index ↔ OpensAt lines index := by
  rw [OpensAt, OpensAt, List.getElem?_append_left h]

theorem isLeast_openings_append (h : IsLeast (openings lines start) first)
    (more : List (List Char)) : IsLeast (openings (lines ++ more) start) first := by
  obtain ⟨⟨hle, hopens⟩, hleast⟩ := h
  have hlt : first < lines.length := by
    obtain ⟨line, hline, -⟩ := hopens
    exact (List.getElem?_eq_some_iff.mp hline).1
  refine ⟨⟨hle, (opensAt_append_iff hlt more).mpr hopens⟩, ?_⟩
  rintro index ⟨hindex, hindexOpens⟩
  by_cases hnear : index < lines.length
  · exact hleast ⟨hindex, (opensAt_append_iff hnear more).mp hindexOpens⟩
  · omega

theorem isLeast_closings_append (h : IsLeast (closings lines first) last)
    (more : List (List Char)) : IsLeast (closings (lines ++ more) first) last := by
  obtain ⟨⟨hle, hlt, hnet⟩, hleast⟩ := h
  refine ⟨⟨hle, by rw [List.length_append]; omega, by rwa [netBraces_append hlt]⟩, ?_⟩
  rintro index ⟨hindex, -, hindexNet⟩
  by_cases hnear : index < lines.length
  · rw [netBraces_append hnear] at hindexNet
    exact hleast ⟨hindex, hnear, hindexNet⟩
  · omega

/-! ## Counts of braces -/

/-- How many braces a line opens, and how many it closes. -/
def braceCounts (line : List Char) : Nat × Nat := (line.count '\x7b', line.count '\x7d')

theorem braceBalance_congr {line row : List Char} (h : braceCounts line = braceCounts row) :
    braceBalance line = braceBalance row := by
  obtain ⟨hopening, hclosing⟩ := Prod.mk.inj h
  rw [braceBalance, braceBalance, hopening, hclosing]

theorem opensBlock_congr {line row : List Char} (h : braceCounts line = braceCounts row) :
    opensBlock line = opensBlock row := by
  rw [Bool.eq_iff_iff, opensBlock, opensBlock, List.contains_iff_mem, List.contains_iff_mem,
    ← List.count_pos_iff, ← List.count_pos_iff, (Prod.mk.inj h).1]

theorem closesAfter_congr {other : List (List Char)}
    (h : lines.map braceCounts = other.map braceCounts) (depth : Int) :
    closesAfter depth lines = closesAfter depth other := by
  induction lines generalizing other depth with
  | nil =>
    obtain rfl := List.map_eq_nil_iff.mp h.symm
    rfl
  | cons line lines ih =>
    obtain ⟨row, other, rfl, hrow, hother⟩ := List.map_eq_cons_iff.mp h.symm
    rw [closesAfter, closesAfter, braceBalance_congr hrow, ih hother.symm]

theorem closing_congr {other : List (List Char)}
    (h : lines.map braceCounts = other.map braceCounts) : closing lines = closing other := by
  induction lines generalizing other with
  | nil =>
    obtain rfl := List.map_eq_nil_iff.mp h.symm
    rfl
  | cons line lines ih =>
    obtain ⟨row, other, rfl, hrow, hother⟩ := List.map_eq_cons_iff.mp h.symm
    rw [closing, closing, opensBlock_congr hrow, ih hother.symm, closesAfter_congr h]

/-- How far a block reaches depends on the counts of braces from its start on only. -/
theorem blockEnd_congr {other : List (List Char)} {otherStart : Nat} (h : start < lines.length)
    (hcounts : (lines.drop start).map braceCounts = (other.drop otherStart).map braceCounts) :
    blockEnd lines start + otherStart = blockEnd other otherStart + start := by
  have hlength := congrArg List.length hcounts
  rw [List.length_map, List.length_map, List.length_drop, List.length_drop] at hlength
  rw [blockEnd, blockEnd, closing_congr hcounts]
  cases closing (other.drop otherStart) with
  | some index =>
    show start + index + otherStart = otherStart + index + start
    omega
  | none =>
    show lines.length - 1 + otherStart = other.length - 1 + start
    omega

/-- The end of a block is the first line, from the first opening brace on, up to which no more
braces are opened than closed, or the last line if there is none. So it lies between the start and
the last line and depends on the counts of braces from the start on only, and where a block is
closed, lines that come later do not matter. -/
theorem blockEnd_isLeast (h : start < lines.length) :
    (∀ first last, IsLeast (openings lines start) first → IsLeast (closings lines first) last →
      blockEnd lines start = last ∧ ∀ more, blockEnd (lines ++ more) start = last) ∧
    (∀ first, IsLeast (openings lines start) first → closings lines first = ∅ →
      blockEnd lines start = lines.length - 1) ∧
    (openings lines start = ∅ → blockEnd lines start = lines.length - 1) ∧
    (start ≤ blockEnd lines start ∧ blockEnd lines start ≤ lines.length - 1) ∧
    ∀ other otherStart,
      (lines.drop start).map braceCounts = (other.drop otherStart).map braceCounts →
      blockEnd lines start + otherStart = blockEnd other otherStart + start := by
  obtain ⟨hle, hlt⟩ := blockEnd_bounds h
  refine ⟨?_, ?_, blockEnd_of_openings_eq_empty, ⟨hle, by omega⟩, ?_⟩
  · intro first last hfirst hlast
    refine ⟨blockEnd_eq_least hfirst hlast, fun more => ?_⟩
    exact blockEnd_eq_least (isLeast_openings_append hfirst more)
      (isLeast_closings_append hlast more)
  · exact fun first hfirst => blockEnd_of_closings_eq_empty hfirst
  · exact fun other otherStart => blockEnd_congr h

/-- A closing brace before the first opening one counts, as it is on the same line. -/
theorem blockEnd_isLeast_of_closer :
    let lines : List (List Char) := [['('], ['\x7d', '\x7b', '\x7b'], ['\x7d'], ['\x7d']]
    0 < lines.length ∧ IsLeast (openings lines 0) 1 ∧ IsLeast (closings lines 1) 2 ∧
      blockEnd lines 0 = 2 ∧ ∀ more, blockEnd (lines ++ more) 0 = 2 := by
  intro lines
  have hfirst : IsLeast (openings lines 0) 1 := by
    refine ⟨⟨by decide, _, rfl, by decide⟩, ?_⟩
    rintro index ⟨-, line, hline, hopens⟩
    cases index with
    | zero =>
      cases hline
      exact absurd hopens (by decide)
    | succ index => exact Nat.le_add_left 1 index
  have hlast : IsLeast (closings lines 1) 2 := by
    refine ⟨⟨by decide, by decide, by decide⟩, ?_⟩
    rintro index ⟨hindex, -, hnet⟩
    by_contra hlate
    obtain rfl : index = 1 := by omega
    exact absurd hnet (by decide)
  exact ⟨by decide, hfirst, hlast, (blockEnd_isLeast (by decide)).1 1 2 hfirst hlast⟩

/-! ## Blocks within blocks -/

/-- Until a block is closed, no more braces are closed in it than opened. -/
theorem netBraces_nonneg {stop : Nat} (hlast : IsLeast (closings lines first) last)
    (hfirst : first ≤ stop) (hstop : stop ≤ last) : 0 ≤ netBraces lines first stop := by
  have hlt := hlast.1.2.1
  by_contra hnegative
  cases stop with
  | zero =>
    rw [netBraces, Nat.zero_sub] at hnegative
    exact hnegative (le_refl 0)
  | succ index =>
    by_cases hempty : first = index + 1
    · rw [netBraces, hempty, Nat.sub_self] at hnegative
      exact hnegative (le_refl 0)
    · have := hlast.2 ⟨(by omega : first ≤ index), by omega, (not_le.mp hnegative).le⟩
      omega

/-- A block that starts and opens within a block ends within it. -/
theorem blockEnd_le_blockEnd {inner : Nat} (hle : start ≤ inner) (hinner : inner < lines.length)
    (hopens : ∃ index, inner ≤ index ∧ index ≤ blockEnd lines start ∧ OpensAt lines index) :
    blockEnd lines inner ≤ blockEnd lines start := by
  obtain ⟨index, hindex, hwithin, hindexOpens⟩ := hopens
  rcases blockEnd_cases lines start with ⟨first, hfirst, hlast⟩ | hlast
  · obtain ⟨opening, hopening⟩ : ∃ opening, IsLeast (openings lines inner) opening :=
      exists_isLeast ⟨index, hindex, hindexOpens⟩
    have hopeningWithin : opening ≤ blockEnd lines start :=
      le_trans (hopening.2 ⟨hindex, hindexOpens⟩) hwithin
    have hlate : first ≤ opening := hfirst.2 ⟨le_trans hle hopening.1.1, hopening.1.2⟩
    -- The outer block is still open where the inner one opens, so what closes it closes both.
    have hclosing : blockEnd lines start ∈ closings lines opening := by
      refine ⟨hopeningWithin, hlast.1.2.1, ?_⟩
      have hstillOpen := netBraces_nonneg hlast hlate hopeningWithin
      have hnet := hlast.1.2.2
      rw [netBraces_add hlate (by omega)] at hnet
      omega
    obtain ⟨last, hinnerLast⟩ := exists_isLeast ⟨_, hclosing⟩
    rw [blockEnd_eq_least hopening hinnerLast]
    exact hinnerLast.2 hclosing
  · have := (blockEnd_bounds hinner).2
    omega

end CodeSearch.Extract
