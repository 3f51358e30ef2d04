import CodeSearch.Embedding.Provider
import CodeSearch.Embedding.SipHash
import CodeSearch.Text.Utf8

/-!
# Vectors without a model

A provider for trying things out: the hash of a text seeds a generator of 64 bit words, and each
word gives one element from -1 up to 1. The vector is scaled to length 1. Equal texts have equal
vectors.

- `Mock.step`: one step of the generator.
- `Mock.units`: the element of a word, counted in steps of `2 ^ -23`.
- `Mock.vector`: the vector of a text.
-/

namespace CodeSearch.Mock

/-- One step of the generator. -/
def step (state : UInt64) : UInt64 :=
  let state := state ^^^ (state <<< 13)
  let state := state ^^^ (state >>> 7)
  state ^^^ (state <<< 17)

/-- The hash of a text: its bytes and one byte that no text contains. -/
def seed (text : String) : UInt64 :=
  SipHash.hash (Text.Utf8.encode text.toList ++ [0xFF])

/-- The states after one, two, … steps. -/
def states (state : UInt64) : Nat → List UInt64
  | 0 => []
  | count + 1 => step state :: states (step state) count

/-- The element that a word gives, in steps of `2 ^ -23`: its upper 24 bits less `2 ^ 23`. -/
def units (state : UInt64) : Int :=
  ((state >>> 40).toNat : Int) - 0x800000

/-- The element that a word gives. A number of 24 bits is a single exactly. -/
def element (state : UInt64) : Single :=
  Single.ofRatio (units state < 0) (units state).natAbs 0x800000

/-- The sum of the squares of the elements, from left to right in single precision. -/
def normSquared (elements : Vector) : Float32 :=
  elements.foldl (fun sum x => sum + x.toFloat32 * x.toFloat32) 0

/-- The elements scaled to length 1, unless all of them are zero. -/
def normalize (elements : Vector) : Vector :=
  let norm := normSquared elements
  if norm > 0 then
    let inverse := 1 / norm.sqrt
    elements.map fun x => Single.ofFloat32 (x.toFloat32 * inverse)
  else elements

/-- The vector of a text. -/
def vector (dimensions : Nat) (text : String) : Vector :=
  normalize ((states (seed text) dimensions).map element)

/-- The provider with the given number of dimensions. It never fails. -/
def provider {σ : Type} (dimensions : Nat) : Provider σ :=
  Provider.ofFunction dimensions fun text => .ok (vector dimensions text)

/-- The number of dimensions unless another is given. -/
def defaultDimensions : Nat := 1536

end CodeSearch.Mock
