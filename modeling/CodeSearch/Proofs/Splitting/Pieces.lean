import CodeSearch.Splitter

/-!
# The pieces of a text

Cutting loses nothing: the pieces of a text, put together again, are the text.

- `flatten_splitAfter`, `flatten_cut`: the pieces tile the text.
- `ne_nil_of_mem_cut`, `length_le_of_mem_cut`: no piece is empty, and none is longer than a window
  may be.
- `Placed`: pieces that lie one after another from a given byte on. A run of such pieces covers the
  bytes of its text (`Placed.windowRange_eq`), and no piece comes twice (`Placed.nodup`).
-/

namespace CodeSearch

namespace Splitter

/-! ## Cutting after a separator -/

/-- Reading a character either ends the piece it belongs to or goes on with that piece. -/
theorem splitAfterFrom_cons (separator : List Char) (skip : Nat) (piece : List Char)
    (pieces : List (List Char)) (c : Char) (rest : List Char) :
    splitAfterFrom separator skip piece pieces (c :: rest) =
        splitAfterFrom separator 0 [] ((c :: piece).reverse :: pieces) rest ∨
      ∃ skip', splitAfterFrom separator skip piece pieces (c :: rest) =
        splitAfterFrom separator skip' (c :: piece) pieces rest := by
  cases skip with
  | succ skip =>
    rw [splitAfterFrom]
    split
    · exact .inl rfl
    · exact .inr ⟨skip, rfl⟩
  | zero =>
    rw [splitAfterFrom]
    split
    · split
      · exact .inl rfl
      · exact .inr ⟨_, rfl⟩
    · exact .inr ⟨0, rfl⟩

/-- What was cut off, what was read since, and what is still to be read make up the pieces. -/
theorem flatten_splitAfterFrom (separator : List Char) (skip : Nat) (piece : List Char)
    (pieces : List (List Char)) (text : List Char) :
    (splitAfterFrom separator skip piece pieces text).flatten =
      pieces.reverse.flatten ++ piece.reverse ++ text := by
  induction text generalizing skip piece pieces with
  | nil => cases piece <;> simp [splitAfterFrom]
  | cons c rest ih =>
    rcases splitAfterFrom_cons separator skip piece pieces c rest with h | ⟨skip', h⟩
    · rw [h, ih]
      simp
    · rw [h, ih]
      simp

/-- The pieces between the ends of the occurrences of a separator tile the text. -/
theorem flatten_splitAfter (separator text : List Char) :
    (splitAfter separator text).flatten = text := by
  rw [splitAfter, flatten_splitAfterFrom]
  rfl

theorem nil_notMem_splitAfterFrom (separator : List Char) (skip : Nat) (piece : List Char)
    (pieces : List (List Char)) (text : List Char) (h : [] ∉ pieces) :
    [] ∉ splitAfterFrom separator skip piece pieces text := by
  induction text generalizing skip piece pieces with
  | nil => cases piece <;> simpa [splitAfterFrom] using h
  | cons c rest ih =>
    rcases splitAfterFrom_cons separator skip piece pieces c rest with hc | ⟨skip', hc⟩
    · rw [hc]
      exact ih 0 [] _ (by simpa using h)
    · rw [hc]
      exact ih skip' (c :: piece) pieces h

theorem nil_notMem_splitAfter (separator text : List Char) : [] ∉ splitAfter separator text :=
  nil_notMem_splitAfterFrom separator 0 [] [] text List.not_mem_nil

/-! ## Cutting at all separators -/

/-- Cutting the parts of a text further loses nothing, if no part loses anything. -/
theorem flatten_flatMap {f : List Char → List (List Char)} (h : ∀ part, (f part).flatten = part)
    (parts : List (List Char)) : (parts.flatMap f).flatten = parts.flatten := by
  induction parts with
  | nil => rfl
  | cons part parts ih =>
    rw [List.flatMap_cons, List.flatten_append, h, ih, List.flatten_cons]

/-- The pieces of a text tile the text. -/
theorem flatten_cut (size : Nat) (separators : List (List Char)) (text : List Char) :
    (cut size separators text).flatten = text := by
  induction separators generalizing text with
  | nil =>
    rw [cut]
    induction text with
    | nil => rfl
    | cons c text ih => simp [ih]
  | cons separator separators ih =>
    rw [cut]
    split
    · -- A piece that is short enough stays, and the others are cut again without loss.
      rw [flatten_flatMap ?_, flatten_splitAfter]
      intro piece
      split
      · exact List.flatten_singleton
      · exact ih piece
    · exact ih text

/-- No piece is empty. -/
theorem ne_nil_of_mem_cut {size : Nat} {separators : List (List Char)} {text piece : List Char}
    (h : piece ∈ cut size separators text) : piece ≠ [] := by
  induction separators generalizing text with
  | nil =>
    obtain ⟨c, _, rfl⟩ := List.mem_map.mp h
    simp
  | cons separator separators ih =>
    rw [cut] at h
    split at h
    · obtain ⟨outer, houter, hpiece⟩ := List.mem_flatMap.mp h
      split at hpiece
      · rw [List.mem_singleton] at hpiece
        rintro rfl
        exact nil_notMem_splitAfter separator text (hpiece ▸ houter)
      · exact ih hpiece
    · exact ih h

/-- Pieces are at most as long as they may be. -/
theorem length_le_of_mem_cut {size : Nat} (hsize : 1 ≤ size) {separators : List (List Char)}
    {text piece : List Char} (h : piece ∈ cut size separators text) : piece.length ≤ size := by
  induction separators generalizing text with
  | nil =>
    obtain ⟨c, _, rfl⟩ := List.mem_map.mp h
    exact hsize
  | cons separator separators ih =>
    rw [cut] at h
    split at h
    · obtain ⟨outer, _, hpiece⟩ := List.mem_flatMap.mp h
      split at hpiece
      · next hfits =>
        rw [List.mem_singleton] at hpiece
        exact hpiece ▸ hfits
      · exact ih hpiece
    · exact ih h

/-! ## Runs of pieces -/

@[simp] theorem windowText_nil : windowText [] = [] := rfl

@[simp] theorem windowText_cons (piece : Piece) (pieces : List Piece) :
    windowText (piece :: pieces) = piece.text ++ windowText pieces := rfl

@[simp] theorem windowText_append (a b : List Piece) :
    windowText (a ++ b) = windowText a ++ windowText b :=
  List.flatMap_append

@[simp] theorem length_append (a b : List Piece) : length (a ++ b) = length a + length b := by
  induction a with
  | nil => rw [List.nil_append, length_nil, Nat.zero_add]
  | cons piece a ih => rw [List.cons_append, length_cons, length_cons, ih, Nat.add_assoc]

@[simp] theorem length_reverse (pieces : List Piece) : length pieces.reverse = length pieces := by
  induction pieces with
  | nil => rfl
  | cons piece pieces ih =>
    rw [List.reverse_cons, length_append, ih, length_cons, length_cons, length_nil, Nat.add_zero,
      Nat.add_comm]

theorem length_windowText (pieces : List Piece) :
    (windowText pieces).length = length pieces := by
  induction pieces with
  | nil => rfl
  | cons piece pieces ih => rw [windowText_cons, List.length_append, ih, length_cons]

theorem windowText_place (offset : Nat) (texts : List (List Char)) :
    windowText (place offset texts) = texts.flatten := by
  induction texts generalizing offset with
  | nil => rfl
  | cons text texts ih => rw [place, windowText_cons, ih, List.flatten_cons]

theorem text_mem_of_mem_place {offset : Nat} {texts : List (List Char)} {piece : Piece}
    (h : piece ∈ place offset texts) : piece.text ∈ texts := by
  induction texts generalizing offset with
  | nil => exact absurd h List.not_mem_nil
  | cons text texts ih =>
    rw [place] at h
    rcases List.mem_cons.mp h with rfl | h
    · exact List.mem_cons_self
    · exact List.mem_cons_of_mem _ (ih h)

/-- A run in which every piece has a text has a text, unless it is empty. -/
theorem windowText_ne_nil {pieces : List Piece} (htext : ∀ piece ∈ pieces, piece.text ≠ [])
    (h : pieces ≠ []) : windowText pieces ≠ [] := by
  obtain ⟨piece, rest, rfl⟩ := List.exists_cons_of_ne_nil h
  rw [windowText_cons]
  exact List.append_ne_nil_of_left_ne_nil (htext piece List.mem_cons_self) _

/-! ## Places -/

/-- The pieces lie one after another, the first one `offset` bytes into the text. -/
def Placed : Nat → List Piece → Prop
  | _, [] => True
  | offset, piece :: pieces => piece.offset = offset ∧ Placed piece.stop pieces

theorem placed_place (offset : Nat) (texts : List (List Char)) :
    Placed offset (place offset texts) := by
  induction texts generalizing offset with
  | nil => trivial
  | cons text texts ih => exact ⟨rfl, ih _⟩

/-- The second of two runs starts where the first one ends. -/
theorem placed_append (offset : Nat) (a b : List Piece) :
    Placed offset (a ++ b) ↔
      Placed offset a ∧ Placed (offset + Text.Utf8.size (windowText a)) b := by
  induction a generalizing offset with
  | nil => simp [Placed]
  | cons piece a ih =>
    rw [List.cons_append, Placed, Placed, ih, windowText_cons, Text.Utf8.size_append]
    constructor
    · rintro ⟨rfl, ha, hb⟩
      exact ⟨⟨rfl, ha⟩, by rwa [← Nat.add_assoc]⟩
    · rintro ⟨⟨rfl, ha⟩, hb⟩
      exact ⟨rfl, ha, by rwa [Piece.stop, Nat.add_assoc]⟩

/-- A run of pieces covers the bytes of its text. -/
theorem Placed.windowRange_eq {offset : Nat} {pieces : List Piece} (h : Placed offset pieces)
    (hne : pieces ≠ []) :
    windowRange pieces = (offset, offset + Text.Utf8.size (windowText pieces)) := by
  induction pieces generalizing offset with
  | nil => exact absurd rfl hne
  | cons piece pieces ih =>
    obtain ⟨rfl, hrest⟩ := h
    cases pieces with
    | nil => simp [windowRange, Piece.stop]
    | cons next rest =>
      have hrange := ih hrest (List.cons_ne_nil next rest)
      have hstop := congrArg Prod.snd hrange
      rw [Prod.ext_iff]
      refine ⟨rfl, ?_⟩
      show (((piece :: next :: rest).getLast?.map Piece.stop).getD 0) = _
      rw [List.getLast?_cons_cons]
      refine hstop.trans ?_
      show piece.offset + _ + _ = _
      rw [windowText_cons piece, Text.Utf8.size_append, Nat.add_assoc]

/-- Pieces that lie one after another, each with a text, are all different. -/
theorem Placed.nodup {offset : Nat} {pieces : List Piece} (h : Placed offset pieces)
    (htext : ∀ piece ∈ pieces, piece.text ≠ []) : pieces.Nodup := by
  have hafter : (∀ piece ∈ pieces, offset ≤ piece.offset) ∧ pieces.Nodup := by
    induction pieces generalizing offset with
    | nil => exact ⟨fun _ h => absurd h List.not_mem_nil, List.nodup_nil⟩
    | cons piece pieces ih =>
      obtain ⟨rfl, hrest⟩ := h
      obtain ⟨hlater, hnodup⟩ :=
        ih hrest fun other hother => htext other (List.mem_cons_of_mem _ hother)
      have hstop : piece.offset < piece.stop := by
        have := List.length_pos_iff.mpr (htext piece List.mem_cons_self)
        have := Text.Utf8.length_le_size piece.text
        rw [Piece.stop]
        omega
      refine ⟨?_, List.nodup_cons.mpr ⟨?_, hnodup⟩⟩
      · intro other hother
        rcases List.mem_cons.mp hother with rfl | hother
        · exact Nat.le_refl _
        · exact Nat.le_trans (Nat.le_of_lt hstop) (hlater other hother)
      · intro hpiece
        exact absurd (hlater piece hpiece) (Nat.not_le.mpr hstop)
  exact hafter.2

end Splitter

end CodeSearch
