import CodeSearch.Json.Printer
import CodeSearch.Json.Reader

/-!
# Literals read back

A string or number literal that was written is read back as the value it was written for, with
whatever follows it left over.

- `readCodes_escapeChar`: an escaped character is read as its code point.
- `readString_renderString`: string literals, also the one that holds no text.
- `Stops`: what follows does not continue a number.
- `readNumber_renderNumber`: number literals.
-/

namespace CodeSearch.Json

/-! ## String literals -/

theorem hexValue?_digitChar {d : Nat} (h : d < 16) :
    hexValue? (some (Nat.digitChar d)) = some d := by
  have hall : ∀ d < 16, hexValue? (some (Nat.digitChar d)) = some d := by decide
  exact hall d h

/-- A control character that has no escape of its own is written with four digits. -/
theorem hexValue4?_digitChar {code : Nat} (h : code < 0x20) :
    hexValue4? (some '0') (some '0') (some (Nat.digitChar (code / 16)))
      (some (Nat.digitChar (code % 16))) = some code := by
  have hzero : hexValue? (some '0') = some 0 := by decide
  have hhigh := hexValue?_digitChar (show code / 16 < 16 by omega)
  have hlow := hexValue?_digitChar (show code % 16 < 16 by omega)
  simp only [hexValue4?, hzero, hhigh, hlow, Option.bind_eq_bind, Option.bind_some, pure,
    Option.some.injEq]
  omega

theorem readCodes_quote (read : List (Option Nat)) (rest : List Symbol) :
    readCodes read (some '"' :: rest) = some (read.reverse, rest) := by
  rw [readCodes.eq_def]
  exact if_pos rfl

theorem readCodes_plain {c : Char} (hquote : c ≠ '"') (hbackslash : c ≠ '\\')
    (hcontrol : ¬ c.toNat < 0x20) (read : List (Option Nat)) (rest : List Symbol) :
    readCodes read (some c :: rest) = readCodes (some c.toNat :: read) rest := by
  rw [readCodes.eq_def]
  dsimp only
  rw [if_neg hquote, if_neg hbackslash, if_neg hcontrol]

theorem readCodes_unicode {d₁ d₂ d₃ d₄ : Symbol} {code : Nat}
    (hcode : hexValue4? d₁ d₂ d₃ d₄ = some code) (read : List (Option Nat))
    (rest : List Symbol) :
    readCodes read (some '\\' :: some 'u' :: d₁ :: d₂ :: d₃ :: d₄ :: rest) =
      readCodes (some code :: read) rest := by
  rw [readCodes, if_neg (by decide), if_pos rfl, hcode]

/-- An escape of one letter is read as the code point that the letter stands for. -/
theorem readCodes_escaped {letter : Char} {code : Nat} (hletter : letter ≠ 'u')
    (hcode : escaped? (some letter) = some code) (read : List (Option Nat))
    (rest : List Symbol) :
    readCodes read (some '\\' :: some letter :: rest) = readCodes (some code :: read) rest := by
  rw [readCodes.eq_def]
  dsimp only
  rw [if_neg (by decide), if_pos rfl]
  split
  · -- The letter is not the one that introduces four digits.
    next heq =>
    injection heq with hhead
    exact absurd (Option.some.inj hhead) hletter
  · next symbol symbols heq =>
    injection heq with hhead htail
    rw [← hhead, ← htail, hcode]
  · next heq => cases heq

/-- An escaped character is read as its code point. -/
theorem readCodes_escapeChar (c : Char) (read : List (Option Nat)) (rest : List Symbol) :
    readCodes read ((escapeChar c).map some ++ rest) =
      readCodes (some c.toNat :: read) rest := by
  unfold escapeChar
  -- Seven characters have an escape of one letter.
  iterate 7
    split
    · next h =>
      subst h
      exact readCodes_escaped (by decide) rfl read rest
  split
  · next hcontrol =>
    show readCodes read (some '\\' :: some 'u' :: some '0' :: some '0' ::
      some (Nat.digitChar (c.toNat / 16)) :: some (Nat.digitChar (c.toNat % 16)) :: rest) = _
    exact readCodes_unicode (hexValue4?_digitChar hcontrol) read rest
  · next hquote hbackslash _ _ _ _ _ hplain =>
    exact readCodes_plain hquote hbackslash hplain read rest

theorem readCodes_flatMap (text : List Char) (read : List (Option Nat)) (rest : List Symbol) :
    readCodes read ((text.flatMap escapeChar).map some ++ some '"' :: rest) =
      some (read.reverse ++ text.map fun c => some c.toNat, rest) := by
  induction text generalizing read with
  | nil =>
    show readCodes read (some '"' :: rest) = _
    rw [readCodes_quote, List.map_nil, List.append_nil]
  | cons c text ih =>
    rw [List.flatMap_cons, List.map_append, List.append_assoc, readCodes_escapeChar, ih]
    simp

/-- The code point of a character is not half of a surrogate pair. -/
theorem not_isHalf_toNat (c : Char) : isHighHalf c.toNat = false ∧ isLowHalf c.toNat = false := by
  have hvalid : c.toNat < 0xD800 ∨ 0xDFFF < c.toNat := by
    rcases c.valid with h | h
    · exact Or.inl h
    · exact Or.inr h.1
  simp only [isHighHalf, isLowHalf, Bool.and_eq_false_iff, decide_eq_false_iff_not]
  omega

theorem joinCodes_toNat (text read : List Char) :
    joinCodes read (text.map fun c => some c.toNat) = some (read.reverse ++ text) := by
  induction text generalizing read with
  | nil => rw [List.map_nil, joinCodes, List.append_nil]
  | cons c text ih =>
    obtain ⟨hhigh, hlow⟩ := not_isHalf_toNat c
    rw [List.map_cons, joinCodes.eq_def]
    dsimp only
    rw [hhigh, hlow, if_neg Bool.false_ne_true, if_neg Bool.false_ne_true, ih, Char.ofNat_toNat,
      List.reverse_cons, List.append_assoc, List.singleton_append]

/-- A string literal is read back, and so is the one that holds no text. -/
theorem readString_renderString (value : Option String) (rest : List Symbol) :
    ∃ body, (renderString value).map some = some '"' :: body ∧
      readString (body ++ rest) = some (value, rest) := by
  cases value with
  | none =>
    refine ⟨['\\', 'u', 'd', '8', '0', '0', '"'].map some, rfl, ?_⟩
    -- Half of a surrogate pair stands for no text.
    have hcodes : readCodes [] (['\\', 'u', 'd', '8', '0', '0', '"'].map some ++ rest) =
        some ([some 0xD800], rest) := by
      have hcode : hexValue4? (some 'd') (some '8') (some '0') (some '0') = some 0xD800 := by
        decide
      exact (readCodes_unicode hcode [] _).trans (readCodes_quote _ rest)
    rw [readString, hcodes]
    rfl
  | some text =>
    refine ⟨(text.toList.flatMap escapeChar).map some ++ [some '"'], ?_, ?_⟩
    · rw [renderString, List.map_cons, List.map_append]
      rfl
    · rw [List.append_assoc, List.singleton_append, readString, readCodes_flatMap]
      dsimp only
      rw [List.reverse_nil, List.nil_append, joinCodes_toNat, List.reverse_nil, List.nil_append,
        Option.map_some, String.ofList_toList]

/-! ## Digits -/

theorem digit?_digitChar (d : Fin 10) : digit? (some (Nat.digitChar d.val)) = some d := by
  revert d
  decide

/-- What follows does not start with a digit. -/
def NoDigit (rest : List Symbol) : Prop := ∀ symbol ∈ rest.head?, digit? symbol = none

/-- A run of digits is read up to its end. -/
theorem readDigits_append {rest : List Symbol} (hrest : NoDigit rest)
    (digits read : List (Fin 10)) :
    readDigits read ((digits.map fun d => Nat.digitChar d.val).map some ++ rest) =
      (read.reverse ++ digits, rest) := by
  induction digits generalizing read with
  | nil =>
    rw [List.map_nil, List.map_nil, List.nil_append, List.append_nil]
    cases rest with
    | nil => rfl
    | cons symbol rest => rw [readDigits, hrest symbol rfl]
  | cons d digits ih =>
    rw [List.map_cons, List.map_cons, List.cons_append, readDigits, digit?_digitChar]
    dsimp only
    rw [ih, List.reverse_cons, List.append_assoc, List.singleton_append]

theorem digitsValue_append (digits : List (Fin 10)) (last : Fin 10) :
    digitsValue (digits ++ [last]) = digitsValue digits * 10 + last.val := by
  rw [digitsValue, List.foldl_append]
  rfl

/-- A numeral is a run of digits with the value of the number. Only zero starts with a zero. -/
theorem decimalDigits_eq_map (n : Nat) :
    ∃ (first : Fin 10) (others : List (Fin 10)),
      Text.decimalDigits n = (first :: others).map (fun d => Nat.digitChar d.val) ∧
      digitsValue (first :: others) = n ∧ (first.val = 0 → others = []) := by
  fun_induction Text.decimalDigits n with
  | case1 n hn => exact ⟨⟨n, hn⟩, [], rfl, by simp [digitsValue], fun _ => rfl⟩
  | case2 n hn ih =>
    obtain ⟨first, others, hdigits, hvalue, hzero⟩ := ih
    let last : Fin 10 := ⟨n % 10, Nat.mod_lt _ (by decide)⟩
    have hlast : last.val = n % 10 := rfl
    refine ⟨first, others ++ [last], ?_, ?_, ?_⟩
    · rw [hdigits, ← List.cons_append, List.map_append]
      rfl
    · rw [← List.cons_append, digitsValue_append, hvalue, hlast]
      omega
    · -- A numeral that goes on does not start with a zero: its value would be below ten.
      intro hfirst
      have hsingle : digitsValue [first] = 0 * 10 + first.val := rfl
      rw [hzero hfirst, hsingle, hfirst] at hvalue
      omega

/-! ## Number literals -/

/-- What follows does not continue a number literal. -/
structure Stops (rest : List Symbol) : Prop where
  noDigit : NoDigit rest
  noPoint : rest.head? ≠ some (some '.')
  noPower : rest.head? ≠ some (some 'e') ∧ rest.head? ≠ some (some 'E')

/-- Nothing stops a number. -/
theorem stops_nil : Stops [] where
  noDigit := fun _ h => absurd h (by simp)
  noPoint := by simp
  noPower := by simp

/-- The characters that may stand right after a number. -/
def numberEnds : List Char := [' ', '\n', ',', ':', ']', '\x7d']

/-- Such a character stops a number. -/
theorem stops_cons {c : Char} (h : c ∈ numberEnds) (rest : List Symbol) :
    Stops (some c :: rest) := by
  have hall : numberEnds.all (fun c => (digit? (some c)).isNone && !(['.', 'e', 'E'].contains c)) =
      true := by decide
  have hc := List.all_eq_true.mp hall c h
  simp only [Bool.and_eq_true, Option.isNone_iff_eq_none, List.contains_cons, List.contains_nil,
    Bool.or_false, Bool.not_eq_true', Bool.or_eq_false_iff, beq_eq_false_iff_ne] at hc
  obtain ⟨hdigit, hpoint, hlower, hupper⟩ := hc
  refine ⟨?_, ?_, ?_, ?_⟩
  · intro symbol hsymbol
    rw [List.head?_cons, Option.mem_some_iff] at hsymbol
    exact hsymbol ▸ hdigit
  · exact fun heq => hpoint (Option.some.inj (Option.some.inj heq))
  · exact fun heq => hlower (Option.some.inj (Option.some.inj heq))
  · exact fun heq => hupper (Option.some.inj (Option.some.inj heq))

theorem readFraction_renderFraction {rest : List Symbol} (hdigit : NoDigit rest)
    (hpoint : rest.head? ≠ some (some '.')) (fraction : List (Fin 10)) :
    readFraction ((renderFraction fraction).map some ++ rest) = some (fraction, rest) := by
  cases fraction with
  | nil =>
    show readFraction rest = _
    unfold readFraction
    split
    · exact absurd rfl hpoint
    · rfl
  | cons d fraction =>
    show readFraction (some '.' :: (((d :: fraction).map fun d => Nat.digitChar d.val).map some ++
      rest)) = _
    rw [readFraction, readDigits_append hdigit]
    rfl

theorem readExponent_renderExponent {rest : List Symbol} (hrest : Stops rest)
    (exponent : Option Int) :
    readExponent ((renderExponent exponent).map some ++ rest) = some (exponent, rest) := by
  cases exponent with
  | none =>
    show readExponent rest = _
    cases rest with
    | nil => rfl
    | cons symbol rest =>
      cases symbol with
      | none => rfl
      | some c =>
        have hc : ¬ (decide (c = 'e') || decide (c = 'E')) = true := by
          have := hrest.noPower
          simpa using this
        exact if_neg hc
  | some e =>
    obtain ⟨first, others, hdigits, hvalue, -⟩ := decimalDigits_eq_map e.natAbs
    have hread := readDigits_append hrest.noDigit (first :: others) []
    rw [← hdigits] at hread
    show readExponent (some 'e' :: some (if e < 0 then '-' else '+') ::
      ((Text.decimalDigits e.natAbs).map some ++ rest)) = _
    by_cases hsign : e < 0
    · have habs : -((e.natAbs : Nat) : Int) = e := by omega
      rw [if_pos hsign, readExponent]
      dsimp only
      rw [if_pos (by decide), hread]
      show some (some (-(digitsValue (first :: others) : Int)), rest) = _
      rw [hvalue, habs]
    · have habs : ((e.natAbs : Nat) : Int) = e := by omega
      rw [if_neg hsign, readExponent]
      dsimp only
      rw [if_pos (by decide), hread]
      show some (some (digitsValue (first :: others) : Int), rest) = _
      rw [hvalue, habs]

/-- What comes after the whole part of a number literal is no digit. -/
theorem noDigit_renderFraction {rest : List Symbol} (hrest : NoDigit rest)
    (fraction : List (Fin 10)) : NoDigit ((renderFraction fraction).map some ++ rest) := by
  cases fraction with
  | nil => exact hrest
  | cons d fraction =>
    intro symbol hsymbol
    cases hsymbol
    decide

theorem noDigit_renderExponent {rest : List Symbol} (hrest : Stops rest) (exponent : Option Int) :
    NoDigit ((renderExponent exponent).map some ++ rest) := by
  cases exponent with
  | none => exact hrest.noDigit
  | some e =>
    intro symbol hsymbol
    cases hsymbol
    decide

theorem noPoint_renderExponent {rest : List Symbol} (hrest : Stops rest) (exponent : Option Int) :
    ((renderExponent exponent).map some ++ rest).head? ≠ some (some '.') := by
  cases exponent with
  | none => exact hrest.noPoint
  | some e =>
    show some (some 'e') ≠ some (some '.')
    decide

/-- The part of a number literal after its sign is read back. -/
theorem readUnsigned_append {rest : List Symbol} (hrest : Stops rest) (n : Number) :
    readUnsigned n.negative ((Text.decimalDigits n.whole).map some ++
      ((renderFraction n.fraction).map some ++ ((renderExponent n.exponent).map some ++ rest))) =
      some (n, rest) := by
  obtain ⟨first, others, hdigits, hvalue, hzero⟩ := decimalDigits_eq_map n.whole
  have hfirst : ¬ (decide (first.val = 0) && !others.isEmpty) = true := by
    rw [Bool.and_eq_true, decide_eq_true_eq]
    rintro ⟨hfirst, hmore⟩
    rw [hzero hfirst] at hmore
    exact absurd hmore (by decide)
  -- The whole part ends where the fraction, the exponent or the rest begins.
  have hread := readDigits_append
    (noDigit_renderFraction (noDigit_renderExponent hrest n.exponent) n.fraction)
    (first :: others) []
  rw [← hdigits] at hread
  have hfraction := readFraction_renderFraction (noDigit_renderExponent hrest n.exponent)
    (noPoint_renderExponent hrest n.exponent) n.fraction
  have hexponent := readExponent_renderExponent hrest n.exponent
  rw [readUnsigned, hread]
  dsimp only [List.reverse_nil, List.nil_append]
  rw [if_neg hfirst, hfraction]
  dsimp only [Option.bind_eq_bind, Option.bind_some]
  rw [hexponent, hvalue]
  rfl

/-- A number literal is read back. -/
theorem readNumber_renderNumber {rest : List Symbol} (hrest : Stops rest) (n : Number) :
    readNumber ((renderNumber n).map some ++ rest) = some (n, rest) := by
  have hparts : (renderNumber n).map some ++ rest =
      (if n.negative then [some '-'] else []) ++ ((Text.decimalDigits n.whole).map some ++
        ((renderFraction n.fraction).map some ++
          ((renderExponent n.exponent).map some ++ rest))) := by
    rw [renderNumber]
    cases n.negative <;> simp
  have hread := readUnsigned_append hrest n
  rw [hparts]
  cases hnegative : n.negative with
  | true =>
    rw [hnegative] at hread
    exact hread
  | false =>
    rw [hnegative] at hread
    obtain ⟨first, others, hdigits, -, -⟩ := decimalDigits_eq_map n.whole
    rw [hdigits] at hread ⊢
    -- The literal starts with a digit, which is no sign.
    show readNumber (some (Nat.digitChar first.val) :: _) = _
    unfold readNumber
    split
    · next heq =>
      have hdigit := digit?_digitChar first
      have hsign : digit? (some '-') = none := by decide
      rw [List.head_eq_of_cons_eq heq, hsign] at hdigit
      cases hdigit
    · exact hread

end CodeSearch.Json
