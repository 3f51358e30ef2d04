import CodeSearch.Proofs.Splitting.Pieces

/-!
# Cutting after a separator

`IsCut` says what the parts of a text are, without reading the text from left to right: the parts
tile the text, and each one ends with the first separator in it.

- `IsCut`: the parts of a text between the ends of its separators.
- `IsCut.unique`: a text has one list of such parts; `isCut_iff` says that `splitAfter` finds it.
- `occursIn_iff`: what is looked for before a text is cut.
- `cut_of_long`: it makes no difference for a text that is too long whether this is looked for.
-/

namespace CodeSearch

namespace Splitter

variable {separator text part part' : List Char} {parts parts' : List (List Char)}

/-- The parts of a text that is cut after each occurrence of a separator. -/
structure IsCut (separator text : List Char) (parts : List (List Char)) : Prop where
  tiles : parts.flatten = text
  nonempty : ∀ part ∈ parts, part ≠ []
  /-- Only the last part may have no separator at its end. -/
  ends : ∀ part ∈ parts.dropLast, separator <:+ part
  /-- No separator is followed by more characters of the same part. -/
  first : ∀ part ∈ parts, ¬ separator <:+: part.dropLast

/-! ## The parts of a text -/

theorem isCut_nil (separator : List Char) : IsCut separator [] [] where
  tiles := rfl
  nonempty := fun _ h => absurd h List.not_mem_nil
  ends := fun _ h => absurd h List.not_mem_nil
  first := fun _ h => absurd h List.not_mem_nil

/-- A text in which no separator is followed by more is the only part of itself. -/
theorem isCut_singleton (hne : text ≠ []) (hfirst : ¬ separator <:+: text.dropLast) :
    IsCut separator text [text] where
  tiles := by simp
  nonempty := by simpa using hne
  ends := fun _ h => absurd h List.not_mem_nil
  first := by simpa using hfirst

/-- A part that ends with its first separator can be put in front. -/
theorem IsCut.cons (h : IsCut separator text parts) (hne : part ≠ []) (hends : separator <:+ part)
    (hfirst : ¬ separator <:+: part.dropLast) : IsCut separator (part ++ text) (part :: parts) where
  tiles := by rw [List.flatten_cons, h.tiles]
  nonempty := List.forall_mem_cons.mpr ⟨hne, h.nonempty⟩
  ends := by
    intro other hother
    rcases List.eq_nil_or_concat parts with rfl | ⟨front, last, rfl⟩
    · exact absurd hother List.not_mem_nil
    · rw [List.dropLast_cons_of_ne_nil (by simp)] at hother
      rcases List.mem_cons.mp hother with rfl | hother
      · exact hends
      · exact h.ends other hother
  first := List.forall_mem_cons.mpr ⟨hfirst, h.first⟩

theorem IsCut.tail (h : IsCut separator text (part :: parts)) :
    IsCut separator parts.flatten parts where
  tiles := rfl
  nonempty := fun other hother => h.nonempty other (List.mem_cons_of_mem _ hother)
  ends := by
    intro other hother
    have hne : parts ≠ [] := by
      rintro rfl
      exact absurd hother List.not_mem_nil
    refine h.ends other ?_
    rw [List.dropLast_cons_of_ne_nil hne]
    exact List.mem_cons_of_mem _ hother
  first := fun other hother => h.first other (List.mem_cons_of_mem _ hother)

theorem IsCut.eq_nil (h : IsCut separator [] parts) : parts = [] := by
  cases parts with
  | nil => rfl
  | cons part parts =>
    have hne := h.nonempty part List.mem_cons_self
    exact absurd (List.append_eq_nil_iff.mp h.tiles).1 hne

/-- The first part cannot go on behind the end of a separator. -/
theorem IsCut.length_le (h : IsCut separator text (part :: parts))
    (h' : IsCut separator text (part' :: parts')) : part'.length ≤ part.length := by
  refine Nat.not_lt.mp fun hlt => ?_
  have hpart : part <+: text := ⟨parts.flatten, h.tiles⟩
  have hpart' : part' <+: text := ⟨parts'.flatten, h'.tiles⟩
  obtain ⟨more, rfl⟩ := List.prefix_of_prefix_length_le hpart hpart' (Nat.le_of_lt hlt)
  have hmore : more ≠ [] := by
    rintro rfl
    simp at hlt
  -- There is a part behind the shorter one, so the shorter one ends with a separator.
  have hparts : parts ≠ [] := by
    rintro rfl
    have htext := h.tiles
    rw [List.flatten_singleton] at htext
    have := hpart'.length_le
    rw [← htext] at this
    omega
  have hends : separator <:+ part := by
    refine h.ends part ?_
    rw [List.dropLast_cons_of_ne_nil hparts]
    exact List.mem_cons_self
  refine h'.first _ List.mem_cons_self ?_
  rw [List.dropLast_append_of_ne_nil hmore]
  exact hends.isInfix.trans (List.prefix_append part _).isInfix

/-- A text has one list of parts. -/
theorem IsCut.unique (h : IsCut separator text parts) (h' : IsCut separator text parts') :
    parts = parts' := by
  induction parts generalizing text parts' with
  | nil =>
    obtain rfl := h.tiles
    exact h'.eq_nil.symm
  | cons part parts ih =>
    cases parts' with
    | nil =>
      obtain rfl := h'.tiles
      exact h.eq_nil
    | cons part' parts' =>
      have hlength : part.length = part'.length := Nat.le_antisymm (h'.length_le h) (h.length_le h')
      obtain ⟨rfl, hrest⟩ := List.append_inj (h.tiles.trans h'.tiles.symm) hlength
      rw [ih h.tail (hrest ▸ h'.tail)]

/-! ## Reading from left to right -/

/-- Characters that belong to a separator end up in the part that it ends. -/
theorem splitAfterFrom_skip (separator : List Char) (piece : List Char) (pieces : List (List Char))
    (rest : List Char) {skipped : List Char} (h : skipped ≠ []) :
    splitAfterFrom separator skipped.length piece pieces (skipped ++ rest) =
      splitAfterFrom separator 0 [] ((piece.reverse ++ skipped) :: pieces) rest := by
  induction skipped generalizing piece with
  | nil => exact absurd rfl h
  | cons c skipped ih =>
    rw [List.length_cons, List.cons_append, splitAfterFrom]
    cases skipped with
    | nil => simp
    | cons d skipped =>
      rw [if_neg (by simp), ih (c :: piece) (List.cons_ne_nil d skipped)]
      simp

/-- A separator at the front of what is still to be read ends the part. -/
theorem splitAfterFrom_separator (piece : List Char) (pieces : List (List Char)) (rest : List Char)
    (hsep : separator ≠ []) :
    splitAfterFrom separator 0 piece pieces (separator ++ rest) =
      splitAfterFrom separator 0 [] ((piece.reverse ++ separator) :: pieces) rest := by
  obtain ⟨c, tail, rfl⟩ := List.exists_cons_of_ne_nil hsep
  rw [List.cons_append, splitAfterFrom, if_pos (by simp)]
  split
  · next hone =>
    have htail : tail = [] := by simpa using hone
    simp [htail]
  · next hmore =>
    have htail : tail ≠ [] := by
      rintro rfl
      exact hmore (Nat.le_refl 1)
    rw [List.length_cons, Nat.add_sub_cancel, splitAfterFrom_skip _ _ _ _ htail]
    simp

/-- No separator starts in `piece`, when `text` follows. -/
def NoneStarts (separator piece text : List Char) : Prop :=
  ∀ tail, tail ≠ [] → tail <:+ piece → ¬ separator <+: tail ++ text

theorem noneStarts_nil (separator text : List Char) : NoneStarts separator [] text :=
  fun _ hne hsuffix => absurd (List.suffix_nil.mp hsuffix) hne

theorem NoneStarts.concat {piece : List Char} {c : Char}
    (h : NoneStarts separator piece (c :: text)) (hnot : ¬ separator <+: c :: text) :
    NoneStarts separator (piece ++ [c]) text := by
  intro tail hne hsuffix
  rcases List.suffix_concat_iff.mp hsuffix with rfl | ⟨front, rfl, hfront⟩
  · exact absurd rfl hne
  · rw [List.append_assoc]
    by_cases hnil : front = []
    · rw [hnil]
      exact hnot
    · exact h front hnil hfront

/-- A separator that is followed by more of a part starts a longer end of the part. -/
theorem exists_tail_of_infix (hne : part ≠ []) (h : separator <:+: part.dropLast) :
    ∃ tail, tail <:+ part ∧ separator.length < tail.length ∧ separator <+: tail := by
  obtain ⟨front, back, hpart⟩ := h
  refine ⟨separator ++ (back ++ [part.getLast hne]), ⟨front, ?_⟩, by simp, List.prefix_append _ _⟩
  rw [← List.append_assoc separator, ← List.append_assoc front, ← List.append_assoc front, hpart,
    List.dropLast_concat_getLast]

/-- The first separator of a part that is open till then ends it. -/
theorem NoneStarts.not_infix_append {piece rest : List Char} (hsep : separator ≠ [])
    (h : NoneStarts separator piece (separator ++ rest)) :
    ¬ separator <:+: (piece ++ separator).dropLast := by
  intro hinside
  obtain ⟨tail, htail, hlonger, hstarts⟩ :=
    exists_tail_of_infix (List.append_ne_nil_of_right_ne_nil piece hsep) hinside
  obtain ⟨front, rfl⟩ := List.suffix_of_suffix_length_le (List.suffix_append piece separator) htail
    (Nat.le_of_lt hlonger)
  have hfront : front ≠ [] := by
    rintro rfl
    exact absurd hlonger (Nat.lt_irrefl _)
  have hsuffix : front <:+ piece := by
    obtain ⟨before, hbefore⟩ := htail
    rw [← List.append_assoc] at hbefore
    exact ⟨before, List.append_cancel_right hbefore⟩
  refine h front hfront hsuffix ?_
  rw [← List.append_assoc]
  exact hstarts.trans (List.prefix_append _ _)

/-- A part that is open at the end of the text has no separator before its own end. -/
theorem NoneStarts.not_infix (h : NoneStarts separator part []) (hne : part ≠ []) :
    ¬ separator <:+: part.dropLast := by
  intro hinside
  obtain ⟨tail, htail, hlonger, hstarts⟩ := exists_tail_of_infix hne hinside
  refine h tail ?_ htail (by rwa [List.append_nil])
  rintro rfl
  exact absurd hlonger (Nat.not_lt_zero _)

/-- The parts that are found behind those that were cut off are the parts of what is open and what
is still to be read, if no separator starts in what is open. -/
theorem isCut_splitAfterFrom (hsep : separator ≠ []) (piece : List Char)
    (pieces : List (List Char)) (text : List Char)
    (hopen : NoneStarts separator piece.reverse text) :
    ∃ parts, splitAfterFrom separator 0 piece pieces text = pieces.reverse ++ parts ∧
      IsCut separator (piece.reverse ++ text) parts := by
  induction hlength : text.length using Nat.strongRecOn generalizing piece pieces text with
  | ind n ih =>
    by_cases hfound : separator <+: text
    · -- A separator ends the open part, and the next part starts behind it.
      obtain ⟨rest, rfl⟩ := hfound
      have hshorter : rest.length < n := by
        have := List.length_pos_iff.mpr hsep
        rw [List.length_append] at hlength
        omega
      obtain ⟨parts, hparts, hcut⟩ := ih rest.length hshorter []
        ((piece.reverse ++ separator) :: pieces) rest (noneStarts_nil separator rest) rfl
      refine ⟨(piece.reverse ++ separator) :: parts, ?_, ?_⟩
      · rw [splitAfterFrom_separator piece pieces rest hsep, hparts, List.reverse_cons,
          List.append_assoc]
        rfl
      · rw [← List.append_assoc]
        exact hcut.cons (List.append_ne_nil_of_right_ne_nil _ hsep) (List.suffix_append _ _)
          (hopen.not_infix_append hsep)
    · cases text with
      | nil =>
        rw [List.append_nil]
        by_cases hpiece : piece = []
        · subst hpiece
          exact ⟨[], by simp [splitAfterFrom], isCut_nil separator⟩
        · have hne : piece.reverse ≠ [] := by simpa using hpiece
          exact ⟨[piece.reverse], by simp [splitAfterFrom, hpiece],
            isCut_singleton hne (hopen.not_infix hne)⟩
      | cons c rest =>
        -- The open part takes the character.
        have hstep : splitAfterFrom separator 0 piece pieces (c :: rest) =
            splitAfterFrom separator 0 (c :: piece) pieces rest := by
          rw [splitAfterFrom, if_neg (by simpa using hfound)]
        have hnext : NoneStarts separator (c :: piece).reverse rest := by
          rw [List.reverse_cons]
          exact hopen.concat hfound
        obtain ⟨parts, hparts, hcut⟩ :=
          ih rest.length (by simp [← hlength]) (c :: piece) pieces rest hnext rfl
        refine ⟨parts, hstep.trans hparts, ?_⟩
        rw [List.reverse_cons, List.append_assoc] at hcut
        exact hcut

theorem isCut_splitAfter (hsep : separator ≠ []) (text : List Char) :
    IsCut separator text (splitAfter separator text) := by
  obtain ⟨parts, hparts, hcut⟩ := isCut_splitAfterFrom hsep [] [] text
    (noneStarts_nil separator text)
  rw [splitAfter, hparts]
  exact hcut

/-- The parts of a text are those that `splitAfter` finds. -/
theorem isCut_iff (hsep : separator ≠ []) :
    IsCut separator text parts ↔ parts = splitAfter separator text := by
  constructor
  · exact fun h => h.unique (isCut_splitAfter hsep text)
  · rintro rfl
    exact isCut_splitAfter hsep text

/-- In a run of line feeds every second one ends a part. -/
example : splitAfter ['\n', '\n'] "a\n\n\nb".toList = ["a\n\n".toList, "\nb".toList] := by
  decide

/-! ## Looking for a separator -/

theorem occursIn_iff : occursIn separator text = true ↔ separator <:+: text := by
  induction text with
  | nil => rw [occursIn, List.isEmpty_iff, List.infix_nil]
  | cons c rest ih =>
    rw [occursIn, Bool.or_eq_true, List.isPrefixOf_iff_prefix, ih, List.infix_cons_iff]

/-- A text without the separator is the only part of itself. -/
theorem splitAfter_of_not_occurs (hsep : separator ≠ []) (hne : text ≠ [])
    (h : ¬ occursIn separator text = true) : splitAfter separator text = [text] := by
  rw [occursIn_iff] at h
  have hcut : IsCut separator text [text] :=
    isCut_singleton hne fun hinside => h (hinside.trans (List.dropLast_prefix text).isInfix)
  exact ((isCut_iff hsep).mp hcut).symm

/-- A text that is too long can be cut after a separator without looking for it first: where it does
not occur, the text is its only part, and is cut at the later separators. -/
theorem cut_of_long (hsep : separator ≠ []) {size : Nat} (hlong : size < text.length)
    (later : List (List Char)) :
    cut size (separator :: later) text = (splitAfter separator text).flatMap fun piece =>
      if piece.length ≤ size then [piece] else cut size later piece := by
  rw [cut]
  split
  · rfl
  · next habsent =>
    have hne : text ≠ [] := List.length_pos_iff.mp (Nat.lt_of_le_of_lt (Nat.zero_le _) hlong)
    rw [splitAfter_of_not_occurs hsep hne habsent, List.flatMap_singleton,
      if_neg (Nat.not_le.mpr hlong)]

end Splitter

end CodeSearch
