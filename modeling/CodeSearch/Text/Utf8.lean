/-!
# UTF-8

`decode` reads bytes as characters and marks every ill-formed stretch. A stretch is the longest
run of bytes that could have begun a character and was not continued, or one byte that begins
none.

- `encode`: the bytes of a text.
- `decode`: the characters of a byte string, `none` for each ill-formed stretch.
- `text? bytes`: the text, when every byte is part of a character.
- `lossyText bytes`: the text with U+FFFD for each ill-formed stretch.
-/

namespace CodeSearch.Text.Utf8

/-- The bytes of a text. -/
def encode (text : List Char) : List UInt8 :=
  text.flatMap String.utf8EncodeChar

/-- A character of several bytes that has begun: how many bytes are missing, the closed range the
next one must lie in, and the bits read so far. -/
structure Begun where
  missing : Nat
  low : Nat
  high : Nat
  bits : Nat
  deriving DecidableEq, Repr

/-- What a byte means at the start of a character: a whole character, the first byte of a longer
one, or nothing. The ranges leave out overlong forms, surrogates and values above U+10FFFF. -/
def begin? (byte : UInt8) : Option (Char ⊕ Begun) :=
  let b := byte.toNat
  if b < 0x80 then some (.inl (Char.ofNat b))
  else if 0xC2 ≤ b && b ≤ 0xDF then some (.inr ⟨1, 0x80, 0xBF, b - 0xC0⟩)
  else if b = 0xE0 then some (.inr ⟨2, 0xA0, 0xBF, 0⟩)
  else if b = 0xED then some (.inr ⟨2, 0x80, 0x9F, 0xD⟩)
  else if 0xE1 ≤ b && b ≤ 0xEF then some (.inr ⟨2, 0x80, 0xBF, b - 0xE0⟩)
  else if b = 0xF0 then some (.inr ⟨3, 0x90, 0xBF, 0⟩)
  else if 0xF1 ≤ b && b ≤ 0xF3 then some (.inr ⟨3, 0x80, 0xBF, b - 0xF0⟩)
  else if b = 0xF4 then some (.inr ⟨3, 0x80, 0x8F, 4⟩)
  else none

/-- Reads on after the characters `read` (latest first), within `begun` if a character has begun. -/
def decodeFrom (begun : Option Begun) (read : List (Option Char)) :
    List UInt8 → List (Option Char)
  | [] => (if begun.isSome then none :: read else read).reverse
  | byte :: bytes =>
    let fresh (read : List (Option Char)) : Option Begun × List (Option Char) :=
      match begin? byte with
      | some (.inl c) => (none, some c :: read)
      | some (.inr begun) => (some begun, read)
      | none => (none, none :: read)
    let next :=
      match begun with
      | none => fresh read
      | some within =>
        if within.low ≤ byte.toNat && byte.toNat ≤ within.high then
          let bits := within.bits * 64 + (byte.toNat - 0x80)
          if within.missing ≤ 1 then (none, some (Char.ofNat bits) :: read)
          else (some ⟨within.missing - 1, 0x80, 0xBF, bits⟩, read)
        else fresh (none :: read)
    decodeFrom next.1 next.2 bytes

/-- The characters of a byte string, `none` for each ill-formed stretch. -/
def decode (bytes : List UInt8) : List (Option Char) :=
  decodeFrom none [] bytes

/-- The text of a byte string in which every byte is part of a character. -/
def text? (bytes : List UInt8) : Option (List Char) :=
  let symbols := decode bytes
  if symbols.all Option.isSome then some (symbols.filterMap id) else none

/-- The text of a byte string, with U+FFFD for each ill-formed stretch. -/
def lossyText (bytes : List UInt8) : List Char :=
  (decode bytes).map fun symbol => symbol.getD '\uFFFD'

/-- The number of bytes of a text. -/
def size (text : List Char) : Nat :=
  text.foldl (fun n c => n + c.utf8Size) 0

/-! ## Laws -/

/-- Bytes counted from `n` on. -/
theorem foldl_utf8Size (n : Nat) (text : List Char) :
    text.foldl (fun n c => n + c.utf8Size) n = n + size text := by
  induction text generalizing n with
  | nil => rfl
  | cons c text ih =>
    rw [size, List.foldl_cons, List.foldl_cons, ih, ih (0 + c.utf8Size)]
    omega

@[simp] theorem size_nil : size [] = 0 := rfl

@[simp] theorem size_cons (c : Char) (text : List Char) :
    size (c :: text) = c.utf8Size + size text := by
  rw [size, List.foldl_cons, foldl_utf8Size, Nat.zero_add]

@[simp] theorem size_append (a b : List Char) : size (a ++ b) = size a + size b := by
  rw [size, List.foldl_append, foldl_utf8Size, ← size]

/-- A character has at least one byte. -/
theorem length_le_size (text : List Char) : text.length ≤ size text := by
  induction text with
  | nil => simp
  | cons c text ih =>
    have := c.utf8Size_pos
    simp only [List.length_cons, size_cons]
    omega

end CodeSearch.Text.Utf8
