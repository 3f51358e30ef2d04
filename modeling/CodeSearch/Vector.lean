import CodeSearch.Number.Single

/-!
# Embedding vectors

A vector is a list of single precision numbers.

- `Vector.encode`, `Vector.decode`: four bytes per number, the least significant first. Bytes at
  the end that make no whole number are dropped.
- `Vector.distance`: the Euclidean distance, in single precision and summed from left to right.
- `Vector.cosine`: the cosine of the angle between two vectors, summed in double precision.
-/

namespace CodeSearch

/-- An embedding vector. -/
abbrev Vector := List Single

namespace Vector

/-- The zero vector with the given number of dimensions. -/
def zero (dimensions : Nat) : Vector := List.replicate dimensions Single.zero

/-! ## Bytes -/

/-- The four bytes of a number, the least significant first. -/
def encodeSingle (x : Single) : List UInt8 :=
  [x.bits.toUInt8, (x.bits >>> 8).toUInt8, (x.bits >>> 16).toUInt8, (x.bits >>> 24).toUInt8]

/-- The number that four bytes stand for. -/
def decodeSingle (a b c d : UInt8) : Single :=
  ⟨a.toUInt32 ||| (b.toUInt32 <<< 8) ||| (c.toUInt32 <<< 16) ||| (d.toUInt32 <<< 24)⟩

/-- The bytes of a vector. -/
def encode (vector : Vector) : List UInt8 :=
  vector.flatMap encodeSingle

/-- The vector that a byte string holds. -/
def decode : List UInt8 → Vector
  | a :: b :: c :: d :: rest => decodeSingle a b c d :: decode rest
  | _ => []

/-! ## Distance -/

/-- The sum of the squared differences of two vectors, in single precision. -/
def squaredDistance (sum : Float32) : Vector → Vector → Float32
  | x :: xs, y :: ys =>
    let difference := x.toFloat32 - y.toFloat32
    squaredDistance (sum + difference * difference) xs ys
  | _, _ => sum

/-- The Euclidean distance of two vectors of the same length. -/
def distance (a b : Vector) : Single :=
  Single.ofFloat32 (squaredDistance 0 a b).sqrt

/-! ## Angle -/

/-- The inner product of two vectors, added to `sum`. -/
def dot (sum : Float) : Vector → Vector → Float
  | x :: xs, y :: ys => dot (sum + x.toDouble * y.toDouble) xs ys
  | _, _ => sum

/-- The cosine of the angle between two vectors; 0 when a vector has no length or the numbers of
dimensions differ. -/
def cosine (a b : Vector) : Single :=
  if a.length ≠ b.length then Single.zero
  else
    let normA := dot 0.0 a a
    let normB := dot 0.0 b b
    if normA == 0.0 || normB == 0.0 then Single.zero
    else Single.ofDouble (dot 0.0 a b / (normA.sqrt * normB.sqrt))

end Vector

end CodeSearch
