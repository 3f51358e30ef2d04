/-!
# Single precision numbers

A `Single` is the 32 bits of an IEEE 754 single: a sign, an exponent of 8 bits and a fraction of
23 bits. Keeping the bits keeps every NaN as it came.

- `Single.magnitude`, `Single.rank`: the bits as a number that grows with the value.
- `Single.le`: the order of values, false as soon as a NaN takes part; the two zeros are equal.
- `Single.rank`: a total order, in which -0 comes just below +0.
- `Single.ofRatio`: the single nearest to a quotient of natural numbers, ties to even.
- `Single.toDouble`, `Single.ofDouble`: the exact widening to double precision and the nearest
  single of a double.
-/

namespace CodeSearch

/-- An IEEE 754 single precision number, as its 32 bits. -/
structure Single where
  bits : UInt32
  deriving DecidableEq, Repr, Inhabited

namespace Single

/-- The number +0. -/
def zero : Single := ⟨0⟩

/-- The sign bit is set. -/
def isNegative (x : Single) : Bool := x.bits ≥ 0x80000000

/-- The bits without the sign: for numbers that are not NaN they grow with the absolute value. -/
def magnitude (x : Single) : Nat := x.bits.toNat % 0x80000000

/-- Not a number: the exponent is all ones and the fraction is not zero. -/
def isNaN (x : Single) : Bool := x.magnitude > 0x7F800000

/-- Plus or minus infinity. -/
def isInfinite (x : Single) : Bool := x.magnitude == 0x7F800000

/-- A number whose order is the order of values; both zeros have position 0. -/
def position (x : Single) : Int :=
  if x.isNegative then -(x.magnitude : Int) else x.magnitude

/-- The order of values. A NaN is not comparable, not even with itself. -/
def le (x y : Single) : Bool :=
  !x.isNaN && !y.isNaN && x.position ≤ y.position

/-- A number whose order is total on all singles: negative ones come first, -0 just below +0. -/
def rank (x : Single) : Int :=
  if x.isNegative then -(x.magnitude : Int) - 1 else x.magnitude

/-! ## Rounding -/

/-- The quotient rounded to the nearest natural number, a half to the even neighbour. -/
def roundHalfEven (numerator denominator : Nat) : Nat :=
  let quotient := numerator / denominator
  let rest := numerator % denominator
  if 2 * rest < denominator then quotient
  else if 2 * rest > denominator then quotient + 1
  else quotient + quotient % 2

/-- The exponent `e` with `2 ^ e ≤ numerator / denominator < 2 ^ (e + 1)`. -/
def exponentOfRatio (numerator denominator : Nat) : Int :=
  let guess : Int := (numerator.log2 : Int) - denominator.log2
  let below : Bool :=
    if guess ≥ 0 then numerator < denominator <<< guess.toNat
    else numerator <<< (-guess).toNat < denominator
  if below then guess - 1 else guess

/-- The single nearest to `numerator / denominator`, a tie going to the even fraction; infinity
when the quotient is too large. -/
def ofRatio (negative : Bool) (numerator denominator : Nat) : Single :=
  let sign : Nat := if negative then 0x80000000 else 0
  if numerator = 0 || denominator = 0 then ⟨UInt32.ofNat sign⟩
  else
    let exponent := exponentOfRatio numerator denominator
    if exponent > 128 then ⟨UInt32.ofNat (sign + 0x7F800000)⟩
    else
      -- the unit in the last place is `2 ^ unit`
      let unit : Int := max (exponent - 23) (-149)
      let significand :=
        if unit ≥ 0 then roundHalfEven numerator (denominator <<< unit.toNat)
        else roundHalfEven (numerator <<< (-unit).toNat) denominator
      let magnitude := (unit + 149).toNat * 0x800000 + significand
      ⟨UInt32.ofNat (sign + min magnitude 0x7F800000)⟩

/-- The single nearest to an integer. -/
def ofInt (i : Int) : Single := ofRatio (i < 0) i.natAbs 1

/-- The significand and the exponent of a finite number: its absolute value is
`significand * 2 ^ exponent`. -/
def parts (x : Single) : Nat × Int :=
  let field : Nat := x.magnitude / 0x800000
  let fraction : Nat := x.magnitude % 0x800000
  if field = 0 then (fraction, -149) else (fraction + 0x800000, (field : Int) - 150)

/-- The absolute value of a finite number as a quotient of natural numbers. -/
def ratio (x : Single) : Nat × Nat :=
  let (significand, exponent) := x.parts
  if exponent ≥ 0 then (significand <<< exponent.toNat, 1)
  else (significand, 1 <<< (-exponent).toNat)

/-! ## Hardware arithmetic -/

/-- The number for arithmetic in single precision. -/
def toFloat32 (x : Single) : Float32 := Float32.ofBits x.bits

/-- The bits of a result of arithmetic in single precision. -/
def ofFloat32 (x : Float32) : Single := ⟨x.toBits⟩

/-- The same number in double precision, exactly. -/
def toDouble (x : Single) : Float :=
  let sign : UInt64 := (x.bits.toUInt64 >>> 31) <<< 63
  let field : UInt64 := (x.bits.toUInt64 >>> 23) &&& 0xFF
  let fraction : UInt64 := x.bits.toUInt64 &&& 0x7FFFFF
  if field = 0xFF then Float.ofBits (sign ||| ((0x7FF : UInt64) <<< 52) ||| (fraction <<< 29))
  else if field = 0 then
    -- a fraction in units of 2 ^ -149, which is a normal number in double precision
    let value := fraction.toFloat * Float.ofBits 0x36A0000000000000
    if sign = 0 then value else -value
  else Float.ofBits (sign ||| ((field + 896) <<< 52) ||| (fraction <<< 29))

/-- The nearest single of a double, ties to even. -/
def ofDouble (x : Float) : Single :=
  let bits : Nat := x.toBits.toNat
  let negative : Bool := bits ≥ 0x8000000000000000
  let field : Nat := bits / 0x10000000000000 % 0x800
  let fraction : Nat := bits % 0x10000000000000
  let sign : Nat := if negative then 0x80000000 else 0
  if field = 0x7FF then
    ⟨UInt32.ofNat (sign + 0x7F800000 + if fraction = 0 then 0 else 0x400000)⟩
  else
    let significand := if field = 0 then fraction else fraction + 0x10000000000000
    let exponent : Int := if field = 0 then -1074 else (field : Int) - 1075
    if exponent ≥ 0 then ofRatio negative (significand <<< exponent.toNat) 1
    else ofRatio negative significand (1 <<< (-exponent).toNat)

/-! ## Laws -/

example : ofRatio false 7 10 = ⟨0x3F333333⟩ := by decide +kernel
example : ofRatio true 1 (10 ^ 45) = ⟨0x80000001⟩ := by decide +kernel
example : ofInt 16777217 = ⟨0x4B800000⟩ := by decide +kernel

theorem le_iff {x y : Single} :
    x.le y = true ↔ x.isNaN = false ∧ y.isNaN = false ∧ x.position ≤ y.position := by
  simp [le, and_assoc]

theorem le_trans {x y z : Single} (hxy : x.le y = true) (hyz : y.le z = true) :
    x.le z = true := by
  rw [le_iff] at *
  exact ⟨hxy.1, hyz.2.1, Int.le_trans hxy.2.2 hyz.2.2⟩

end Single

end CodeSearch
