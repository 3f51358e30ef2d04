import CodeSearch.Store.Pattern
import Mathlib.Data.List.Forall2
import Mathlib.Data.List.TakeWhile

/-!
# What the pattern of a keyword matches

A keyword is searched for through a pattern: its characters are escaped, and a `%` is put at both
ends. What comes of it is plain: the texts in which the keyword occurs, up to characters that are
read alike.

- `Pattern.Alike`: the characters that are read alike; `Pattern.fold_eq_fold_iff` says that these
  are the ones that are compared as equal.
- `Pattern.Occurs`: a keyword occurs in a text.
- `Pattern.matchesText_containing_iff`: the texts that the pattern of a keyword matches.
-/

namespace CodeSearch.Pattern

/-! ## Characters that are read alike -/

/-- The same character, or the same letter of ASCII in either case. -/
def SameLetter (a b : Char) : Prop := a.toLower = b.toLower

/-- The replacement character, or one of the two noncharacters that are read as it. -/
def IsReplaced (c : Char) : Prop := 0xFFFD ≤ c.toNat ∧ c.toNat ≤ 0xFFFF

/-- Two characters that a search does not tell apart. -/
def Alike (a b : Char) : Prop := SameLetter a b ∨ (IsReplaced a ∧ IsReplaced b)

instance : DecidableRel SameLetter := fun a b => inferInstanceAs (Decidable (a.toLower = b.toLower))

instance : DecidablePred IsReplaced := fun _ => inferInstanceAs (Decidable (_ ∧ _))

instance : DecidableRel Alike := fun _ _ => inferInstanceAs (Decidable (_ ∨ _))

theorem toNat_le_of_isUpper {c : Char} (h : c.isUpper = true) : c.toNat ≤ 90 := by
  unfold Char.isUpper at h
  rw [decide_eq_true_eq] at h
  exact UInt32.le_iff_toNat_le.mp h.2

theorem toNat_le_of_isLower {c : Char} (h : c.isLower = true) : c.toNat ≤ 122 := by
  unfold Char.isLower at h
  rw [Bool.and_eq_true, decide_eq_true_eq, decide_eq_true_eq] at h
  exact UInt32.le_iff_toNat_le.mp h.2

/-- Only capital letters of ASCII are changed, to letters of ASCII. -/
theorem toLower_eq_or (c : Char) :
    c.toLower = c ∨ (c.isUpper = true ∧ c.toLower.isLower = true) := by
  unfold Char.toLower
  split
  · next hupper =>
    right
    obtain ⟨hlow, hhigh⟩ := hupper
    have hfirst : 65 ≤ c.val.toNat := UInt32.le_iff_toNat_le.mp hlow
    have hlast : c.val.toNat ≤ 90 := UInt32.le_iff_toNat_le.mp hhigh
    have hval : (c.val + ('a'.val - 'A'.val)).toNat = c.val.toNat + 32 := by
      have hstep : ('a'.val - 'A'.val).toNat = 32 := rfl
      rw [UInt32.toNat_add, hstep]
      omega
    refine ⟨decide_eq_true ⟨hlow, hhigh⟩, ?_⟩
    unfold Char.isLower
    rw [Bool.and_eq_true, decide_eq_true_eq, decide_eq_true_eq]
    constructor
    · show (97 : UInt32) ≤ c.val + ('a'.val - 'A'.val)
      rw [UInt32.le_iff_toNat_le, hval]
      show 97 ≤ c.val.toNat + 32
      omega
    · show c.val + ('a'.val - 'A'.val) ≤ (122 : UInt32)
      rw [UInt32.le_iff_toNat_le, hval]
      show c.val.toNat + 32 ≤ 122
      omega
  · left
    rfl

/-- A character that is neither a letter of ASCII nor replaced is like itself alone. -/
theorem alike_iff_eq {a : Char} (hletter : a.isAlpha = false) (hreplaced : ¬ IsReplaced a)
    (b : Char) : Alike a b ↔ a = b := by
  unfold Char.isAlpha at hletter
  rw [Bool.or_eq_false_iff] at hletter
  obtain ⟨hupper, hlower⟩ := hletter
  constructor
  · rintro (h | ⟨h, -⟩)
    · rw [SameLetter, (toLower_eq_or a).resolve_right fun h => by simp [hupper] at h] at h
      rcases toLower_eq_or b with hb | ⟨-, hb⟩
      · rw [h, hb]
      · -- The other case of a letter is a letter.
        rw [← h, hlower] at hb
        cases hb
    · exact absurd h hreplaced
  · rintro rfl
    exact Or.inl rfl

theorem isReplaced_toLower (c : Char) : IsReplaced c.toLower ↔ IsReplaced c := by
  rcases toLower_eq_or c with h | ⟨hupper, hlower⟩
  · rw [h]
  · have := toNat_le_of_isUpper hupper
    have := toNat_le_of_isLower hlower
    rw [IsReplaced, IsReplaced]
    omega

theorem SameLetter.isReplaced_iff {a b : Char} (h : SameLetter a b) :
    IsReplaced a ↔ IsReplaced b := by
  rw [← isReplaced_toLower a, ← isReplaced_toLower b, h]

theorem fold_of_isReplaced {c : Char} (h : IsReplaced c) : fold c = '\uFFFD' := by
  rw [fold]
  split
  · rfl
  · next hplain =>
    -- Of the three only U+FFFD itself is left, and it has no other case.
    have hcode : c.toNat = 0xFFFD := by
      simp only [Bool.or_eq_true, decide_eq_true_eq, IsReplaced] at hplain h
      omega
    have hc : c = '\uFFFD' := Char.toNat_inj.mp hcode
    rw [hc]
    rfl

theorem fold_of_not_isReplaced {c : Char} (h : ¬ IsReplaced c) : fold c = c.toLower := by
  rw [fold, if_neg]
  simp only [Bool.or_eq_true, decide_eq_true_eq, IsReplaced] at h ⊢
  omega

theorem isReplaced_fold (c : Char) : IsReplaced (fold c) ↔ IsReplaced c := by
  by_cases h : IsReplaced c
  · rw [fold_of_isReplaced h]
    exact iff_of_true (by decide) h
  · rw [fold_of_not_isReplaced h]
    exact isReplaced_toLower c

/-- Characters are compared as equal if they are alike. -/
theorem fold_eq_fold_iff (a b : Char) : fold a = fold b ↔ Alike a b := by
  constructor
  · intro h
    have hreplaced : IsReplaced a ↔ IsReplaced b := by
      rw [← isReplaced_fold a, ← isReplaced_fold b, h]
    by_cases ha : IsReplaced a
    · exact Or.inr ⟨ha, hreplaced.mp ha⟩
    · have hb : ¬ IsReplaced b := fun hb => ha (hreplaced.mpr hb)
      rw [fold_of_not_isReplaced ha, fold_of_not_isReplaced hb] at h
      exact Or.inl h
  · rintro (h | ⟨ha, hb⟩)
    · by_cases ha : IsReplaced a
      · rw [fold_of_isReplaced ha, fold_of_isReplaced (h.isReplaced_iff.mp ha)]
      · have hb : ¬ IsReplaced b := fun hb => ha (h.isReplaced_iff.mpr hb)
        rw [fold_of_not_isReplaced ha, fold_of_not_isReplaced hb]
        exact h
    · rw [fold_of_isReplaced ha, fold_of_isReplaced hb]

/-! ## Keywords in texts -/

/-- The keyword occurs somewhere in the text, character by character up to `alike`. -/
def Occurs (alike : Char → Char → Prop) (keyword text : List Char) : Prop :=
  ∃ before found after, text = before ++ found ++ after ∧ List.Forall₂ alike keyword found

/-- Only the characters of the keyword decide which other ones count as alike. -/
theorem Occurs.imp {alike other : Char → Char → Prop} {keyword text : List Char}
    (himp : ∀ a ∈ keyword, ∀ b, alike a b → other a b) (h : Occurs alike keyword text) :
    Occurs other keyword text := by
  obtain ⟨before, found, after, htext, hfound⟩ := h
  refine ⟨before, found, after, htext, ?_⟩
  clear htext
  induction hfound with
  | nil => exact .nil
  | cons hab _ ih =>
    exact .cons (himp _ List.mem_cons_self _ hab)
      (ih fun a ha => himp a (List.mem_cons_of_mem _ ha))

/-- The empty keyword occurs in every text. -/
theorem occurs_nil (alike : Char → Char → Prop) (text : List Char) : Occurs alike [] text :=
  ⟨[], [], text, rfl, .nil⟩

/-- A keyword of one character occurs in a text if the text has a character that is alike. -/
theorem occurs_singleton_iff {alike : Char → Char → Prop} {a : Char} {text : List Char} :
    Occurs alike [a] text ↔ ∃ b ∈ text, alike a b := by
  constructor
  · rintro ⟨before, found, after, rfl, hfound⟩
    obtain ⟨b, rest, hab, -, rfl⟩ := List.forall₂_cons_left_iff.mp hfound
    exact ⟨b, List.mem_append_left _ (List.mem_append_right _ List.mem_cons_self), hab⟩
  · rintro ⟨b, hb, hab⟩
    obtain ⟨before, after, rfl⟩ := List.append_of_mem hb
    exact ⟨before, [b], after, List.append_cons .., .cons hab .nil⟩

/-- A pattern that starts with any text matches what ends in something that the rest matches. -/
theorem matchTokens_anyText_iff (rest : List Token) (text : List Char) :
    matchTokens (.anyText :: rest) text = true ↔
      ∃ before after, text = before ++ after ∧ matchTokens rest after = true := by
  induction text with
  | nil =>
    rw [matchTokens]
    constructor
    · intro h
      exact ⟨[], [], rfl, h⟩
    · rintro ⟨before, after, htext, h⟩
      obtain ⟨-, rfl⟩ := List.append_eq_nil_iff.mp htext.symm
      exact h
  | cons c text ih =>
    rw [matchTokens, Bool.or_eq_true, ih]
    constructor
    · rintro (h | ⟨before, after, rfl, h⟩)
      · exact ⟨[], c :: text, rfl, h⟩
      · exact ⟨c :: before, after, rfl, h⟩
    · rintro ⟨before, after, htext, h⟩
      cases before with
      | nil =>
        obtain rfl : c :: text = after := htext
        exact Or.inl h
      | cons first before =>
        obtain ⟨rfl, rfl⟩ := List.cons.inj htext
        exact Or.inr ⟨before, after, rfl, h⟩

/-- Literal characters match a stretch of text that is alike. -/
theorem matchTokens_literals_iff (keyword : List Char) (rest : List Token) (text : List Char) :
    matchTokens (keyword.map .literal ++ rest) text = true ↔
      ∃ found after, text = found ++ after ∧ List.Forall₂ Alike keyword found ∧
        matchTokens rest after = true := by
  induction keyword generalizing text with
  | nil =>
    constructor
    · intro h
      exact ⟨[], text, rfl, .nil, h⟩
    · rintro ⟨found, after, rfl, hfound, h⟩
      cases hfound
      exact h
  | cons a keyword ih =>
    cases text with
    | nil =>
      rw [List.map_cons, List.cons_append, matchTokens]
      refine iff_of_false Bool.false_ne_true ?_
      rintro ⟨found, after, htext, hfound, -⟩
      cases hfound
      cases htext
    | cons c text =>
      rw [List.map_cons, List.cons_append, matchTokens, Bool.and_eq_true, beq_iff_eq,
        fold_eq_fold_iff, ih]
      constructor
      · rintro ⟨hc, found, after, rfl, hfound, h⟩
        exact ⟨c :: found, after, rfl, .cons hc hfound, h⟩
      · rintro ⟨found, after, htext, hfound, h⟩
        cases hfound with
        | cons hc hfound =>
          obtain ⟨rfl, rfl⟩ := List.cons.inj htext
          exact ⟨hc, _, after, rfl, hfound, h⟩

/-- A text is matched by a keyword between two stretches of any text if the keyword occurs in
it. -/
theorem matchTokens_keyword_iff (keyword text : List Char) :
    matchTokens (.anyText :: (keyword.map .literal ++ [.anyText])) text = true ↔
      Occurs Alike keyword text := by
  rw [matchTokens_anyText_iff, Occurs]
  constructor
  · rintro ⟨before, rest, rfl, h⟩
    obtain ⟨found, after, rfl, hfound, -⟩ := (matchTokens_literals_iff _ _ _).mp h
    exact ⟨before, found, after, (List.append_assoc _ _ _).symm, hfound⟩
  · rintro ⟨before, found, after, rfl, hfound⟩
    refine ⟨before, found ++ after, List.append_assoc _ _ _, ?_⟩
    -- What comes after the keyword is any text.
    have hafter : matchTokens [.anyText] after = true :=
      (matchTokens_anyText_iff [] after).mpr ⟨after, [], (List.append_nil after).symm, by
        rw [matchTokens, List.isEmpty_nil]⟩
    exact (matchTokens_literals_iff _ _ _).mpr ⟨found, after, rfl, hfound, hafter⟩

instance (keyword text : List Char) : Decidable (Occurs Alike keyword text) :=
  decidable_of_iff _ (matchTokens_keyword_iff keyword text)

/-! ## The pattern of a keyword -/

/-- Escaped characters are literal, whatever they are. -/
theorem tokens_escape_append (keyword rest : List Char) :
    tokens (escape keyword ++ rest) = keyword.map .literal ++ tokens rest := by
  induction keyword with
  | nil => rfl
  | cons c keyword ih =>
    rw [escape, List.flatMap_cons, List.append_assoc, ← escape, List.map_cons, List.cons_append]
    split
    · -- The backslash in front takes away the meaning of the character.
      rw [List.cons_append, List.cons_append, List.nil_append, tokens, ih]
    · next hplain =>
      simp only [Bool.or_eq_true, decide_eq_true_eq, not_or] at hplain
      obtain ⟨⟨hescape, hany⟩, hone⟩ := hplain
      rw [List.cons_append, List.nil_append, tokens, if_neg hany, if_neg hone, ih]
      rintro _ _ rfl
      exact absurd rfl hescape

theorem tokens_containing (keyword : List Char) :
    tokens (containing keyword) = .anyText :: (keyword.map .literal ++ [.anyText]) := by
  have hhead : tokens (containing keyword) = .anyText :: tokens (escape keyword ++ ['%']) := by
    rw [containing, tokens]
    · rfl
    · rintro _ _ h
      cases h
  rw [hhead, tokens_escape_append]
  rfl

theorem untilNul_of_not_mem {text : List Char} (h : '\x00' ∉ text) : untilNul text = text := by
  rw [untilNul, List.takeWhile_eq_self_iff]
  intro c hc
  rw [bne_iff_ne]
  rintro rfl
  exact h hc

theorem not_mem_containing {keyword : List Char} (h : '\x00' ∉ keyword) :
    '\x00' ∉ containing keyword := by
  have hescape : '\x00' ∉ escape keyword := by
    intro hmem
    obtain ⟨c, hc, hmem⟩ := List.mem_flatMap.mp hmem
    split at hmem
    · simp only [List.mem_cons, List.not_mem_nil, or_false] at hmem
      rcases hmem with hmem | rfl
      · cases hmem
      · exact h hc
    · rw [List.mem_singleton] at hmem
      exact h (hmem ▸ hc)
  simp only [containing, List.mem_cons, List.mem_append, List.not_mem_nil, or_false, not_or]
  exact ⟨by decide, hescape, by decide⟩

/-- The pattern of a keyword matches the texts in which the keyword occurs. -/
theorem matchesText_containing_iff {keyword text : List Char} (hkeyword : '\x00' ∉ keyword)
    (htext : '\x00' ∉ text) :
    matchesText (containing keyword) text = true ↔ Occurs Alike keyword text := by
  rw [matchesText, untilNul_of_not_mem (not_mem_containing hkeyword), untilNul_of_not_mem htext,
    tokens_containing, matchTokens_keyword_iff]

end CodeSearch.Pattern
