import CodeSearch.Proofs.Splitting.Packing

/-!
# Counting in bounded numbers

Packing counts the characters of the open window, adds the length of every piece and subtracts that
of every piece it drops. Here the same loop runs on numbers below a limit and stops with no result
when a sum reaches the limit or a difference would be negative.

- `shedBelow`, `packFromBelow`, `windowsBelow`: the loop with every sum and difference checked.
- `windowsBelow_eq`: no check ever fails for a text whose characters can be counted below the limit.
-/

namespace CodeSearch

namespace Splitter

/-- A sum that has to stay below the limit. -/
def sumBelow (limit a b : Nat) : Option Nat :=
  if a + b < limit then some (a + b) else none

/-- A difference that must not be negative. -/
def difference? (a b : Nat) : Option Nat :=
  if b ≤ a then some (a - b) else none

/-- Drops pieces from the start of a full window as `shed` does, with every step checked. -/
def shedBelow (splitter : Splitter) (limit next total : Nat) :
    List Piece → Option (List Piece × Nat)
  | [] => some ([], total)
  | piece :: pieces => do
    let sum ← sumBelow limit total next
    if splitter.overlap < total || splitter.size < sum then
      let total ← difference? total piece.text.length
      splitter.shedBelow limit next total pieces
    else some (piece :: pieces, total)

/-- Packs pieces into windows as `packFrom` does, with every step checked. -/
def packFromBelow (splitter : Splitter) (limit : Nat) (current : List Piece) (total : Nat) :
    List Piece → Option (List (List Piece))
  | [] => some (if current.isEmpty then [] else [current.reverse])
  | piece :: pieces => do
    let sum ← sumBelow limit total piece.text.length
    if splitter.size < sum && !current.isEmpty then
      let (kept, left) ← splitter.shedBelow limit piece.text.length total current.reverse
      let sum ← sumBelow limit left piece.text.length
      let windows ← packFromBelow splitter limit (piece :: kept.reverse) sum pieces
      some (current.reverse :: windows)
    else packFromBelow splitter limit (piece :: current) sum pieces

/-- The windows of a text, with every step of packing checked. -/
def windowsBelow (splitter : Splitter) (limit : Nat) (text : List Char) :
    Option (List (List Piece)) :=
  if text.length ≤ splitter.size then some [[⟨0, text⟩]]
  else splitter.packFromBelow limit [] 0 (place 0 (cut splitter.size separators text))

theorem sumBelow_eq {limit a b : Nat} (h : a + b < limit) : sumBelow limit a b = some (a + b) :=
  if_pos h

theorem difference?_eq {a b : Nat} (h : b ≤ a) : difference? a b = some (a - b) :=
  if_pos h

/-- The count is that of the pieces still there, so it covers every piece that is dropped. -/
theorem shedBelow_eq (splitter : Splitter) (limit next : Nat) (window : List Piece)
    (h : length window + next < limit) :
    splitter.shedBelow limit next (length window) window =
      some (splitter.shed next (length window) window) := by
  induction window with
  | nil => rfl
  | cons piece window ih =>
    have hcount := length_cons piece window
    rw [shedBelow, shed, sumBelow_eq h, difference?_eq (by omega)]
    show (if _ then _ else _) = _
    split
    · show splitter.shedBelow limit next _ window = _
      rw [hcount, Nat.add_sub_cancel_left]
      exact ih (by omega)
    · rfl

/-- The open window and the pieces still to come never have more characters than the text. -/
theorem packFromBelow_eq (splitter : Splitter) {limit : Nat} {current pieces : List Piece}
    {total : Nat} (htotal : total = length current)
    (hlimit : length current + length pieces < limit)
    (hpieces : ∀ piece ∈ pieces, piece.text.length ≤ splitter.size) :
    splitter.packFromBelow limit current total pieces =
      some (splitter.packFrom current total pieces) := by
  induction pieces generalizing current total with
  | nil => rfl
  | cons piece pieces ih =>
    have hrest : ∀ piece ∈ pieces, piece.text.length ≤ splitter.size :=
      fun other hother => hpieces other (List.mem_cons_of_mem _ hother)
    rw [length_cons] at hlimit
    rw [packFromBelow, packFrom, sumBelow_eq (by omega)]
    show (if _ then _ else _) = _
    split
    · obtain ⟨dropped, kept, hsplit, _, hshed⟩ :=
        shed_spec splitter (hpieces piece List.mem_cons_self) current.reverse
      -- What is dropped only makes less of the characters that are open or still to come.
      have hcount : length current = length dropped + length kept := by
        rw [← length_reverse current, hsplit, length_append]
      have hbelow := shedBelow_eq splitter limit piece.text.length current.reverse
        (by rw [length_reverse]; omega)
      rw [hshed, length_reverse, ← htotal] at hbelow
      rw [length_reverse, ← htotal] at hshed
      have hlater :
          splitter.packFromBelow limit (piece :: kept.reverse)
              (length kept + piece.text.length) pieces =
            some (splitter.packFrom (piece :: kept.reverse)
              (length kept + piece.text.length) pieces) := by
        refine ih ?_ ?_ hrest
        · rw [length_cons, length_reverse, Nat.add_comm]
        · rw [length_cons, length_reverse]
          omega
      rw [hbelow, hshed]
      show (sumBelow limit (length kept) piece.text.length).bind _ = _
      rw [sumBelow_eq (by omega)]
      show (splitter.packFromBelow limit (piece :: kept.reverse) _ pieces).bind _ = _
      rw [hlater]
      rfl
    · refine ih ?_ ?_ hrest
      · rw [length_cons, htotal, Nat.add_comm]
      · rw [length_cons]
        omega

/-- A limit above the number of characters of a text is never reached. -/
theorem windowsBelow_eq (splitter : Splitter) {limit : Nat} {text : List Char}
    (h : text.length < limit) :
    splitter.windowsBelow limit text = some (splitter.windows text) := by
  rw [windowsBelow, windows]
  split
  · rfl
  · refine packFromBelow_eq splitter rfl ?_ ?_
    · rw [length_nil, Nat.zero_add, ← length_windowText, windowText_place, flatten_cut]
      exact h
    · intro piece hpiece
      exact length_le_of_mem_cut splitter.one_le_size (text_mem_of_mem_place hpiece)

end Splitter

end CodeSearch
