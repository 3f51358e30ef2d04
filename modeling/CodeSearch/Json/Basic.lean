import CodeSearch.Number.Single

/-!
# JSON values

`Json` is a document as it was written: a number keeps its sign, digits and exponent, members keep
their order, and equal keys stay apart. A string literal may hold half of a surrogate pair or bytes
that are no characters; it is then no text, and its value is `none`.
-/

namespace CodeSearch

/-- A number literal: `-` if negative, the whole part, the digits after the point (none when there
is no point), and the power of ten after `e`. -/
structure Json.Number where
  negative : Bool := false
  whole : Nat
  fraction : List (Fin 10) := []
  exponent : Option Int := none
  deriving DecidableEq, Repr, Inhabited

/-- A JSON document. -/
inductive Json where
  | null
  | bool (value : Bool)
  | number (value : Json.Number)
  | string (value : Option String)
  | array (items : List Json)
  | object (members : List (Option String × Json))
  deriving Inhabited

namespace Json

/-- A string literal that holds `text`. -/
def text (text : String) : Json := .string (some text)

/-- A list of texts. -/
def texts (items : List String) : Json := .array (items.map text)

/-- A natural number. -/
def ofNat (n : Nat) : Json := .number { whole := n }

/-- An integer. -/
def ofInt (i : Int) : Json := .number { negative := i < 0, whole := i.natAbs }

/-- An object with the given keys and values, in order. -/
def record (members : List (String × Json)) : Json :=
  .object (members.map fun member => (some member.1, member.2))

/-- The text, or `null`. -/
def optionalText : Option String → Json
  | none => .null
  | some value => text value

end Json

end CodeSearch
