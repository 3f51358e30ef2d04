import CodeSearch.Json.Basic
import CodeSearch.Text.Decimal
import CodeSearch.Text.Utf8

/-!
# Reading JSON

The input is a list of symbols: characters, and `none` for each stretch of bytes that is no
character. Such a stretch is accepted inside a string literal, whose value is then no text, and
nowhere else. There is no limit on nesting.

- `Json.ofText?`, `Json.ofBytes?`: the document that fills the whole input, blanks around it aside.
- `readString`, `readNumber`, `readValue`: one literal or value, and the symbols after it.
-/

namespace CodeSearch.Json

/-- A character of the input, or a stretch of bytes that is none. -/
abbrev Symbol := Option Char

/-- The four characters that may stand between the parts of a document. -/
def isGap (symbol : Symbol) : Bool :=
  symbol == some ' ' || symbol == some '\n' || symbol == some '\t' || symbol == some '\r'

/-- The input after the blanks at its start. -/
def skipGap (symbols : List Symbol) : List Symbol :=
  symbols.dropWhile isGap

/-! ## String literals -/

/-- The value of a hexadecimal digit. -/
def hexValue? (symbol : Symbol) : Option Nat :=
  symbol.bind Text.hexValue?

/-- The value of four hexadecimal digits. -/
def hexValue4? (a b c d : Symbol) : Option Nat := do
  let a ← hexValue? a
  let b ← hexValue? b
  let c ← hexValue? c
  let d ← hexValue? d
  return ((a * 16 + b) * 16 + c) * 16 + d

/-- The character that a backslash and one more character stand for. -/
def escaped? (symbol : Symbol) : Option Nat :=
  match symbol with
  | some '"' => some 0x22
  | some '\\' => some 0x5C
  | some '/' => some 0x2F
  | some 'b' => some 0x08
  | some 'f' => some 0x0C
  | some 'n' => some 0x0A
  | some 'r' => some 0x0D
  | some 't' => some 0x09
  | _ => none

/-- Reads a string literal after its opening quote, behind the code points `read` (latest first).
A code point may be half of a surrogate pair; `none` is a stretch of bytes that is no character. -/
def readCodes (read : List (Option Nat)) :
    List Symbol → Option (List (Option Nat) × List Symbol)
  | [] => none
  | none :: rest => readCodes (none :: read) rest
  | some c :: rest =>
    if c = '"' then some (read.reverse, rest)
    else if c = '\\' then
      match rest with
      | some 'u' :: d₁ :: d₂ :: d₃ :: d₄ :: rest =>
        match hexValue4? d₁ d₂ d₃ d₄ with
        | some code => readCodes (some code :: read) rest
        | none => none
      | symbol :: rest =>
        match escaped? symbol with
        | some code => readCodes (some code :: read) rest
        | none => none
      | [] => none
    else if c.toNat < 0x20 then none
    else readCodes (some c.toNat :: read) rest

/-- The first half of a surrogate pair. -/
def isHighHalf (code : Nat) : Bool := 0xD800 ≤ code && code ≤ 0xDBFF

/-- The second half of a surrogate pair. -/
def isLowHalf (code : Nat) : Bool := 0xDC00 ≤ code && code ≤ 0xDFFF

/-- Joins surrogate pairs, behind the characters `read` (latest first). There is no text when a
half stands alone or a code point is missing. -/
def joinCodes (read : List Char) : List (Option Nat) → Option (List Char)
  | [] => some read.reverse
  | none :: _ => none
  | some code :: rest =>
    if isHighHalf code then
      match rest with
      | some low :: rest =>
        if isLowHalf low then
          joinCodes (Char.ofNat (0x10000 + (code - 0xD800) * 0x400 + (low - 0xDC00)) :: read) rest
        else none
      | _ => none
    else if isLowHalf code then none
    else joinCodes (Char.ofNat code :: read) rest

/-- Reads a string literal after its opening quote. -/
def readString (symbols : List Symbol) : Option (Option String × List Symbol) :=
  match readCodes [] symbols with
  | none => none
  | some (codes, rest) => some ((joinCodes [] codes).map String.ofList, rest)

/-! ## Number literals -/

/-- The value of a decimal digit. -/
def digit? (symbol : Symbol) : Option (Fin 10) :=
  match symbol with
  | none => none
  | some c => if c.isDigit then some ⟨(c.toNat - 48) % 10, Nat.mod_lt _ (by decide)⟩ else none

/-- The longest run of digits at the start, behind the digits `read` (latest first). -/
def readDigits (read : List (Fin 10)) : List Symbol → List (Fin 10) × List Symbol
  | [] => (read.reverse, [])
  | symbol :: rest =>
    match digit? symbol with
    | some d => readDigits (d :: read) rest
    | none => (read.reverse, symbol :: rest)

/-- The number that a run of digits stands for. -/
def digitsValue (digits : List (Fin 10)) : Nat :=
  digits.foldl (fun n d => n * 10 + d.val) 0

/-- The part from the point on, if there is one. A point needs a digit after it. -/
def readFraction (symbols : List Symbol) : Option (List (Fin 10) × List Symbol) :=
  match symbols with
  | some '.' :: rest =>
    match readDigits [] rest with
    | ([], _) => none
    | (digits, rest) => some (digits, rest)
  | _ => some ([], symbols)

/-- The power of ten, if there is one. It needs a digit. -/
def readExponent (symbols : List Symbol) : Option (Option Int × List Symbol) :=
  let signed (negative : Bool) (rest : List Symbol) : Option (Option Int × List Symbol) :=
    match readDigits [] rest with
    | ([], _) => none
    | (digits, rest) =>
      let size : Int := digitsValue digits
      some (some (if negative then -size else size), rest)
  match symbols with
  | some e :: rest =>
    if e = 'e' || e = 'E' then
      match rest with
      | some '-' :: rest => signed true rest
      | some '+' :: rest => signed false rest
      | _ => signed false rest
    else some (none, symbols)
  | _ => some (none, symbols)

/-- Reads a number literal after its sign. The whole part has no leading zero. -/
def readUnsigned (negative : Bool) (symbols : List Symbol) : Option (Number × List Symbol) :=
  match readDigits [] symbols with
  | ([], _) => none
  | (first :: others, rest) =>
    if first.val = 0 && !others.isEmpty then none
    else do
      let (fraction, rest) ← readFraction rest
      let (exponent, rest) ← readExponent rest
      return (⟨negative, digitsValue (first :: others), fraction, exponent⟩, rest)

/-- Reads a number literal. -/
def readNumber (symbols : List Symbol) : Option (Number × List Symbol) :=
  match symbols with
  | some '-' :: rest => readUnsigned true rest
  | _ => readUnsigned false symbols

/-! ## Values -/

/-- The input after `word`, if it starts with it. -/
def expect? (word : List Char) (symbols : List Symbol) : Option (List Symbol) :=
  if (word.map some).isPrefixOf symbols then some (symbols.drop word.length) else none

mutual

/-- Reads a value, blanks before it aside. -/
def readValue : Nat → List Symbol → Option (Json × List Symbol)
  | 0, _ => none
  | fuel + 1, symbols =>
    match skipGap symbols with
    | [] => none
    | first :: rest =>
      if first = some '"' then (readString rest).map fun (value, rest) => (.string value, rest)
      else if first = some '[' then
        match skipGap rest with
        | some ']' :: rest => some (.array [], rest)
        | rest => (readItems fuel rest).map fun (items, rest) => (.array items, rest)
      else if first = some '\x7b' then
        match skipGap rest with
        | some '\x7d' :: rest => some (.object [], rest)
        | rest => (readMembers fuel rest).map fun (members, rest) => (.object members, rest)
      else if first = some 'n' then (expect? ['u', 'l', 'l'] rest).map fun rest => (.null, rest)
      else if first = some 't' then
        (expect? ['r', 'u', 'e'] rest).map fun rest => (.bool true, rest)
      else if first = some 'f' then
        (expect? ['a', 'l', 's', 'e'] rest).map fun rest => (.bool false, rest)
      else (readNumber (first :: rest)).map fun (n, rest) => (.number n, rest)

/-- Reads one item and all that follow it, and the closing bracket. -/
def readItems : Nat → List Symbol → Option (List Json × List Symbol)
  | 0, _ => none
  | fuel + 1, symbols =>
    match readValue fuel symbols with
    | none => none
    | some (item, rest) =>
      match skipGap rest with
      | some ',' :: rest => (readItems fuel rest).map fun (items, rest) => (item :: items, rest)
      | some ']' :: rest => some ([item], rest)
      | _ => none

/-- Reads one member and all that follow it, and the closing brace. -/
def readMembers : Nat → List Symbol → Option (List (Option String × Json) × List Symbol)
  | 0, _ => none
  | fuel + 1, symbols =>
    match skipGap symbols with
    | some '"' :: rest =>
      match readString rest with
      | none => none
      | some (key, rest) =>
        match skipGap rest with
        | some ':' :: rest =>
          match readValue fuel rest with
          | none => none
          | some (value, rest) =>
            match skipGap rest with
            | some ',' :: rest =>
              (readMembers fuel rest).map fun (members, rest) => ((key, value) :: members, rest)
            | some '\x7d' :: rest => some ([(key, value)], rest)
            | _ => none
        | _ => none
    | _ => none

end

/-- The document that fills the input. Every value takes at least one symbol and two steps. -/
def ofSymbols? (symbols : List Symbol) : Option Json :=
  match readValue (2 * symbols.length + 2) symbols with
  | some (document, rest) => if (skipGap rest).isEmpty then some document else none
  | none => none

/-- The document that a text holds. -/
def ofText? (text : String) : Option Json :=
  ofSymbols? (text.toList.map some)

/-- The document that a byte string holds. -/
def ofBytes? (bytes : List UInt8) : Option Json :=
  ofSymbols? (Text.Utf8.decode bytes)

end CodeSearch.Json
