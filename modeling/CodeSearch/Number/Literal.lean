import CodeSearch.Number.Shortest

/-!
# Single precision numbers as they are typed

`Single.ofText?` reads a number that a user has typed: an optional sign, and then digits with an
optional point and power of ten, or one of the words `inf`, `infinity` and `nan` in any case. The
value is the nearest single to what is written.
-/

namespace CodeSearch.Single

/-- Not a number. -/
def nan : Single := ⟨0x7FC00000⟩

/-- Infinity with the given sign. -/
def infinity (negative : Bool) : Single := ⟨if negative then 0xFF800000 else 0x7F800000⟩

/-- A sign at the start of a text, and the text after it. -/
def splitSign : List Char → Bool × List Char
  | '-' :: rest => (true, rest)
  | '+' :: rest => (false, rest)
  | text => (false, text)

/-- A power of ten after its `e`: an optional sign and digits. -/
def readPower? (text : List Char) : Option Int :=
  let (negative, digits) := splitSign text
  if digits.isEmpty || !digits.all Char.isDigit then none
  else
    let size : Int := Text.readDecimal digits
    some (if negative then -size else size)

/-- The power of ten in what follows the digits, 0 if nothing does. -/
def powerAfter? : List Char → Option Int
  | [] => some 0
  | c :: rest => if c = 'e' || c = 'E' then readPower? rest else none

/-- The nearest single to `digits * 10 ^ exponent`. A value that lies far outside the range of
singles is not calculated. -/
def ofDigits (negative : Bool) (digits : List Char) (exponent : Int) : Single :=
  let significant := digits.dropWhile (· == '0')
  let size : Int := significant.length + exponent
  if significant.isEmpty || size < -60 then ofRatio negative 0 1
  else if 60 < size then infinity negative
  else ofDecimal negative (Text.readDecimal significant) exponent

/-- Reads digits with an optional point and power of ten. -/
def ofDecimalText? (negative : Bool) (text : List Char) : Option Single :=
  let whole := text.takeWhile Char.isDigit
  let rest := text.dropWhile Char.isDigit
  let (fraction, rest) :=
    match rest with
    | '.' :: rest => (rest.takeWhile Char.isDigit, rest.dropWhile Char.isDigit)
    | _ => ([], rest)
  if whole.isEmpty && fraction.isEmpty then none
  else
    (powerAfter? rest).map fun power =>
      ofDigits negative (whole ++ fraction) (power - fraction.length)

/-- Reads a number that was typed. -/
def ofText? (text : String) : Option Single :=
  let (negative, rest) := splitSign text.toList
  let word := String.ofList (rest.map Char.toLower)
  if word = "inf" || word = "infinity" then some (infinity negative)
  else if word = "nan" then some nan
  else ofDecimalText? negative rest

example : ofText? "-.5e1" = some ⟨0xC0A00000⟩ := by decide +kernel
example : ofText? "5." = some ⟨0x40A00000⟩ := by decide +kernel
example : ofText? "." = none := by decide +kernel
example : ofText? "1e999999999999" = some (infinity false) := by decide +kernel

end CodeSearch.Single
