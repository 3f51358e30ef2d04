import CodeSearch.Json.Basic
import CodeSearch.Number.Shortest

/-!
# Single precision numbers as JSON

A finite number is written with the fewest digits that read back as the same single. The literal
is positional, with at least one digit after the point, while the power of ten of its first digit
lies between -6 and 12; beyond that it has one digit before the point and an exponent.
Infinities and NaN are `null`.
-/

namespace CodeSearch.Json

/-- The powers of ten of the first digit for which a literal is positional. -/
def isPositional (exponent : Int) : Bool := -6 ≤ exponent && exponent ≤ 12

/-- Digit characters as digits. -/
def digitsOf (numeral : List Char) : List (Fin 10) :=
  numeral.map fun c => Fin.ofNat 10 (Text.digitValue c)

/-- The literal `d₀.d₁d₂… * 10 ^ exponent`. -/
def numberOfDigits (negative : Bool) (digits : List Char) (exponent : Int) : Number :=
  if isPositional exponent then
    if exponent < 0 then
      let zeros := List.replicate (exponent.natAbs - 1) '0'
      { negative, whole := 0, fraction := digitsOf (zeros ++ digits) }
    else
      let wholeLength := exponent.toNat + 1
      let padding := List.replicate (wholeLength - digits.length) '0'
      let fraction := digits.drop wholeLength
      { negative
        whole := Text.readDecimal (digits.take wholeLength ++ padding)
        fraction := digitsOf (if fraction.isEmpty then ['0'] else fraction) }
  else
    { negative
      whole := Text.readDecimal (digits.take 1)
      fraction := digitsOf (digits.drop 1)
      exponent := some exponent }

/-- A single precision number as a document. -/
def ofSingle (x : Single) : Json :=
  if x.isNaN || x.isInfinite then .null
  else
    let (digits, exponent) := x.shortestDigits
    .number (numberOfDigits x.isNegative digits exponent)

end CodeSearch.Json
