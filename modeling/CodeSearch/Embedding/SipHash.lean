/-!
# SipHash-1-3

A hash of byte strings with 64 bits: one round per word of eight bytes, three at the end, and both
keys zero.

- `SipHash.hash`: the hash of a byte string.
-/

namespace CodeSearch.SipHash

/-- The four words of the hash while bytes are taken in. -/
structure State where
  v0 : UInt64
  v1 : UInt64
  v2 : UInt64
  v3 : UInt64
  deriving DecidableEq, Repr

/-- The state before any bytes, with both keys zero. -/
def initial : State :=
  ⟨0x736f6d6570736575, 0x646f72616e646f6d, 0x6c7967656e657261, 0x7465646279746573⟩

/-- Rotates a word to the left. -/
def rotateLeft (x : UInt64) (n : UInt64) : UInt64 :=
  (x <<< n) ||| (x >>> (64 - n))

/-- One round. -/
def round (s : State) : State :=
  let v0 := s.v0 + s.v1
  let v1 := rotateLeft s.v1 13 ^^^ v0
  let v0 := rotateLeft v0 32
  let v2 := s.v2 + s.v3
  let v3 := rotateLeft s.v3 16 ^^^ v2
  let v0 := v0 + v3
  let v3 := rotateLeft v3 21 ^^^ v0
  let v2 := v2 + v1
  let v1 := rotateLeft v1 17 ^^^ v2
  let v2 := rotateLeft v2 32
  ⟨v0, v1, v2, v3⟩

/-- Takes in one word. -/
def absorb (s : State) (word : UInt64) : State :=
  let s := round { s with v3 := s.v3 ^^^ word }
  { s with v0 := s.v0 ^^^ word }

/-- The word that up to eight bytes stand for, the least significant first. -/
def wordOf (bytes : List UInt8) : UInt64 :=
  bytes.foldr (fun byte word => (word <<< 8) ||| byte.toUInt64) 0

/-- Takes in whole words of eight bytes; the bytes left over make a last word with the length in
its highest byte. -/
def absorbAll (s : State) (length : Nat) : List UInt8 → State
  | a :: b :: c :: d :: e :: f :: g :: h :: rest =>
    absorbAll (absorb s (wordOf [a, b, c, d, e, f, g, h])) length rest
  | rest => absorb s (wordOf rest ||| (UInt64.ofNat length <<< 56))

/-- The last three rounds. -/
def finish (s : State) : UInt64 :=
  let s := round (round (round { s with v2 := s.v2 ^^^ 0xFF }))
  s.v0 ^^^ s.v1 ^^^ s.v2 ^^^ s.v3

/-- The hash of a byte string. -/
def hash (bytes : List UInt8) : UInt64 :=
  finish (absorbAll initial bytes.length bytes)

end CodeSearch.SipHash
