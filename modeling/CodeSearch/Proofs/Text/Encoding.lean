import CodeSearch.Proofs.Text.ByteOrder

/-!
# Texts and their bytes

The bytes of a text are read as the text. Each character is read from its own bytes, whatever
comes behind them: the first byte tells how many there are, and the bits of all of them are the
code point.

- `decodeFrom_encodeChar`: the bytes of one character.
- `decode_encode`, `text?_encode`: the bytes of a text.
-/

namespace CodeSearch.Text.Utf8

variable {read : List (Option Char)} {bytes : List UInt8} {byte : UInt8}

/-! ## First bytes -/

theorem begin?_one {n : Nat} (h : n < 0x80) :
    begin? (UInt8.ofNat n) = some (.inl (Char.ofNat n)) := by
  have hbyte : n < 256 := by omega
  rw [begin?, UInt8.toNat_ofNat_of_lt' hbyte, if_pos h]

theorem begin?_two : ∀ n < 32, 2 ≤ n →
    begin? (UInt8.ofNat (n + 0xC0)) = some (.inr ⟨1, 0x80, 0xBF, n⟩) := by
  decide

theorem begin?_three : ∀ n < 16,
    begin? (UInt8.ofNat (n + 0xE0)) =
      some (.inr ⟨2, if n = 0 then 0xA0 else 0x80, if n = 13 then 0x9F else 0xBF, n⟩) := by
  decide

theorem begin?_four : ∀ n < 5,
    begin? (UInt8.ofNat (n + 0xF0)) =
      some (.inr ⟨3, if n = 0 then 0x90 else 0x80, if n = 4 then 0x8F else 0xBF, n⟩) := by
  decide

/-! ## Reading on -/

theorem decodeFrom_whole {c : Char} (h : begin? byte = some (.inl c)) :
    decodeFrom none read (byte :: bytes) = decodeFrom none (some c :: read) bytes := by
  simp only [decodeFrom, h]

theorem decodeFrom_begin {begun : Begun} (h : begin? byte = some (.inr begun)) :
    decodeFrom none read (byte :: bytes) = decodeFrom (some begun) read bytes := by
  simp only [decodeFrom, h]

theorem toNat_tail {n : Nat} (h : n < 64) : (UInt8.ofNat (n + 0x80)).toNat = n + 0x80 := by
  have hbyte : n + 0x80 < 256 := by omega
  exact UInt8.toNat_ofNat_of_lt' hbyte

/-- A byte behind the first one gives six bits. -/
theorem decodeFrom_continue {missing low high bits n : Nat} (h : byte.toNat = n + 0x80)
    (hlow : low ≤ n + 0x80) (hhigh : n + 0x80 ≤ high) :
    decodeFrom (some ⟨missing + 2, low, high, bits⟩) read (byte :: bytes) =
      decodeFrom (some ⟨missing + 1, 0x80, 0xBF, bits * 64 + n⟩) read bytes := by
  simp [decodeFrom, h, hlow, hhigh]

/-- The last byte of a character gives the last six bits. -/
theorem decodeFrom_last {low high bits n : Nat} (h : byte.toNat = n + 0x80)
    (hlow : low ≤ n + 0x80) (hhigh : n + 0x80 ≤ high) :
    decodeFrom (some ⟨1, low, high, bits⟩) read (byte :: bytes) =
      decodeFrom none (some (Char.ofNat (bits * 64 + n)) :: read) bytes := by
  simp [decodeFrom, h, hlow, hhigh]

/-! ## Characters and texts -/

/-- A character is read from its bytes. -/
theorem decodeFrom_encodeChar (c : Char) (read : List (Option Char)) (bytes : List UInt8) :
    decodeFrom none read (String.utf8EncodeChar c ++ bytes) =
      decodeFrom none (some c :: read) bytes := by
  have hvalid : c.val.toNat < 0xD800 ∨ 0xDFFF < c.val.toNat ∧ c.val.toNat < 0x110000 := c.valid
  have hchar : Char.ofNat c.val.toNat = c := Char.ofNat_toNat c
  unfold String.utf8EncodeChar
  dsimp only
  generalize c.val.toNat = v at hvalid hchar ⊢
  split_ifs with h₁ h₂ h₃
  · rw [List.singleton_append, decodeFrom_whole (begin?_one (by omega)), hchar]
  · rw [List.cons_append, decodeFrom_begin (begin?_two _ (by omega) (by omega)),
      List.singleton_append, decodeFrom_last (toNat_tail (by omega)) (by omega) (by omega),
      show v / 64 % 32 * 64 + v % 64 = v by omega, hchar]
  · -- The second byte of a short code point is at least `0xA0`, and no surrogate has bytes.
    rw [List.cons_append, decodeFrom_begin (begin?_three _ (by omega)), List.cons_append,
      decodeFrom_continue (toNat_tail (by omega)) (by split_ifs <;> omega) (by split_ifs <;> omega),
      List.singleton_append, decodeFrom_last (toNat_tail (by omega)) (by omega) (by omega),
      show (v / 4096 % 16 * 64 + v / 64 % 64) * 64 + v % 64 = v by omega, hchar]
  · rw [show v / 262144 % 8 = v / 262144 by omega, List.cons_append,
      decodeFrom_begin (begin?_four _ (by omega)), List.cons_append,
      decodeFrom_continue (toNat_tail (by omega)) (by split_ifs <;> omega) (by split_ifs <;> omega),
      List.cons_append, decodeFrom_continue (toNat_tail (by omega)) (by omega) (by omega),
      List.singleton_append, decodeFrom_last (toNat_tail (by omega)) (by omega) (by omega),
      show ((v / 262144 * 64 + v / 4096 % 64) * 64 + v / 64 % 64) * 64 + v % 64 = v by omega,
      hchar]

theorem decodeFrom_encode (text : List Char) (read : List (Option Char)) :
    decodeFrom none read (encode text) = read.reverse ++ text.map some := by
  induction text generalizing read with
  | nil =>
    rw [List.map_nil, List.append_nil]
    rfl
  | cons c text ih =>
    rw [encode_cons, decodeFrom_encodeChar, ih, List.reverse_cons, List.append_assoc,
      List.map_cons, List.singleton_append]

theorem decode_encode (text : List Char) : decode (encode text) = text.map some := by
  rw [decode, decodeFrom_encode, List.reverse_nil, List.nil_append]

/-- The bytes of a text are read as the text. -/
theorem text?_encode (text : List Char) : text? (encode text) = some text := by
  have hall : (text.map some).all Option.isSome = true := by simp
  have hread : (text.map some).filterMap id = text := by simp
  simp only [text?, decode_encode, hall, if_true, hread]

end CodeSearch.Text.Utf8
