import CodeSearch.Json.Basic
import CodeSearch.Text.Decimal

/-!
# The value of a number literal

A literal without point and exponent is an integer; a minus sign in front of zero makes it a
fractional number. Every other literal is read in double precision: the leading digits that fit
64 bits are taken as an integer, rounded to a double, and scaled by a power of ten; a value
beyond the largest double is refused.

- `toUInt64?`, `toInt32?`: the value of an integer literal that fits the type.
- `toSingle?`: the value in single precision, rounded once from an integer of at most 64 bits and
  twice, over double precision, from anything else.
-/

namespace CodeSearch.Json.Number

/-- The literal is an integer: no point, no exponent, and no minus sign in front of zero. -/
def isInteger (n : Number) : Bool :=
  n.fraction.isEmpty && n.exponent.isNone && !(n.negative && n.whole == 0)

/-- The value of an integer literal. -/
def toInt (n : Number) : Int :=
  if n.negative then -(n.whole : Int) else n.whole

/-- The value of an integer literal from 0 to `2 ^ 64 - 1`. -/
def toUInt64? (n : Number) : Option UInt64 :=
  if n.isInteger && !n.negative && n.whole < 0x10000000000000000 then
    some (UInt64.ofNat n.whole) else none

/-- The value of an integer literal from `-2 ^ 31` to `2 ^ 31 - 1`. -/
def toInt32? (n : Number) : Option Int32 :=
  if n.isInteger && -0x80000000 ≤ n.toInt && n.toInt < 0x80000000 then
    some (Int32.ofInt n.toInt)
  else none

/-! ## Fractional numbers -/

/-- Appends digits to a numeral while it stays below `2 ^ 64`; the digits that no longer fit are
left over. -/
def absorb (significand : Nat) : List Nat → Nat × List Nat
  | [] => (significand, [])
  | d :: digits =>
    if significand * 10 + d < 0x10000000000000000 then absorb (significand * 10 + d) digits
    else (significand, d :: digits)

/-- The leading digits as an integer, and the power of ten that scales it. Digits of the whole part
that do not fit count in the power; digits after the point that do not fit are dropped. -/
def leading (n : Number) : Nat × Int :=
  let (whole, skipped) := absorb 0 ((Text.decimalDigits n.whole).map Text.digitValue)
  let (significand, dropped) := absorb whole (n.fraction.map Fin.val)
  let places := n.fraction.length - dropped.length
  (significand, (skipped.length : Int) - places + n.exponent.getD 0)

/-- A power of ten in double precision. -/
def powerOfTen (exponent : Nat) : Float :=
  Float.ofScientific 1 false exponent

/-- Divides by a power of ten, in steps that are themselves doubles. -/
def scaleDown (value : Float) (exponent : Nat) : Float :=
  if exponent ≤ 308 then value / powerOfTen exponent
  else if value == 0.0 then value
  else scaleDown (value / powerOfTen 308) (exponent - 308)
termination_by exponent

/-- The absolute value in double precision; none when it is too large. -/
def magnitude? (n : Number) : Option Float :=
  let (significand, exponent) := n.leading
  let value := (UInt64.ofNat significand).toFloat
  if exponent < 0 then some (scaleDown value exponent.natAbs)
  else if value == 0.0 then some value
  else if exponent > 308 then none
  else
    let scaled := value * powerOfTen exponent.toNat
    if scaled.isInf then none else some scaled

/-- The value in single precision; none when it is beyond the largest double. -/
def toSingle? (n : Number) : Option Single :=
  if n.isInteger && (if n.negative then n.whole ≤ 0x8000000000000000
      else n.whole < 0x10000000000000000) then
    some (Single.ofInt n.toInt)
  else
    n.magnitude?.map fun value => Single.ofDouble (if n.negative then -value else value)

end CodeSearch.Json.Number
