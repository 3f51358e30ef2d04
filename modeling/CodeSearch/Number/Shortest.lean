import CodeSearch.Number.Single
import CodeSearch.Text.Blank
import CodeSearch.Text.Decimal

/-!
# Decimal text of single precision numbers

- `Single.shortest`: the fewest significant digits that read back as the same number, and the
  closest of those to the exact value.
- `Single.fixed`: the exact value rounded to a number of places after the point, ties to even.
-/

namespace CodeSearch.Single

/-- The nearest single to `digits * 10 ^ exponent`. -/
def ofDecimal (negative : Bool) (digits : Nat) (exponent : Int) : Single :=
  if exponent ≥ 0 then ofRatio negative (digits * Nat.pow 10 exponent.toNat) 1
  else ofRatio negative digits (Nat.pow 10 (-exponent).toNat)

/-- The exponent `e` with `10 ^ e ≤ numerator / denominator < 10 ^ (e + 1)`: the length of the
numerals gives it up to one. -/
def decimalExponent (numerator denominator : Nat) : Int :=
  let guess : Int :=
    ((Text.decimalDigits numerator).length : Int) - (Text.decimalDigits denominator).length
  let below : Bool :=
    if guess ≥ 0 then numerator < denominator * Nat.pow 10 guess.toNat
    else numerator * Nat.pow 10 (-guess).toNat < denominator
  if below then guess - 1 else guess

/-- The neighbours of `numerator / denominator` in units of `10 ^ unit`, from below and from above,
the nearer one first; a tie puts the even one first. -/
def neighbours (numerator denominator : Nat) (unit : Int) : List Nat :=
  let (top, bottom) :=
    if unit ≥ 0 then (numerator, denominator * Nat.pow 10 unit.toNat)
    else (numerator * Nat.pow 10 (-unit).toNat, denominator)
  let low := top / bottom
  let near := roundHalfEven top bottom
  if near = low then [low, low + 1] else [low + 1, low]

/-- The decimal with at most `count` digits that is tried for the absolute value of `x`: one of the
two neighbours on that grid, if it reads back as `x`. -/
def decimalOfLength? (x : Single) (count : Nat) : Option (Nat × Int) :=
  let (numerator, denominator) := x.ratio
  let unit := decimalExponent numerator denominator - ((count : Int) - 1)
  ((neighbours numerator denominator unit).find? fun digits =>
    (ofDecimal x.isNegative digits unit) == x).map fun digits => (digits, unit)

/-- The shortest decimal that reads back as the finite number `x`, as `digits * 10 ^ exponent`. Nine
digits always do. -/
def shortest (x : Single) : Nat × Int :=
  if x.magnitude = 0 then (0, 0)
  else
    let found := [1, 2, 3, 4, 5, 6, 7, 8, 9].findSome? fun count => x.decimalOfLength? count
    found.getD (0, 0)

/-- The significant digits of the shortest decimal, without trailing zeros, and the power of ten of
the first one. The absolute value is `d₀.d₁d₂… * 10 ^ exponent`. -/
def shortestDigits (x : Single) : List Char × Int :=
  let (digits, unit) := x.shortest
  let numeral := Text.decimalDigits digits
  let kept := Text.trimEndWhere (· == '0') numeral
  (if kept.isEmpty then ['0'] else kept, unit + numeral.length - 1)

/-- The exact value rounded to `places` digits after the point, a tie going to the even one. -/
def fixed (places : Nat) (x : Single) : String :=
  if x.isNaN then "NaN"
  else
    let sign := if x.isNegative then "-" else ""
    if x.isInfinite then sign ++ "inf"
    else
      let (numerator, denominator) := x.ratio
      let scaled := roundHalfEven (numerator * Nat.pow 10 places) denominator
      let fraction := Text.decimalDigits (scaled % Nat.pow 10 places)
      sign ++ Text.decimal (scaled / Nat.pow 10 places) ++ "." ++
        String.ofList (List.replicate (places - fraction.length) '0' ++ fraction)

example : fixed 3 (ofRatio false 1 16) = "0.062" := by decide +kernel
example : fixed 3 (ofRatio true 3 16) = "-0.188" := by decide +kernel

end CodeSearch.Single
