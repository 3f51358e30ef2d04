import CodeSearch.Json.Basic
import CodeSearch.Text.Decimal

/-!
# Writing JSON

A document is written either on one line without blanks, or with every item and member on a line
of its own, indented by two spaces per level. Both come from one printer with a `Layout`.

- `Json.compact`: one line.
- `Json.pretty`: one item per line; a space follows the colon of a member.
-/

namespace CodeSearch.Json

/-- How the parts of a document are set apart. -/
inductive Layout where
  | compact
  | indented
  deriving DecidableEq, Repr

/-- What stands between two items at the given depth. -/
def Layout.gap : Layout → Nat → List Char
  | .compact, _ => []
  | .indented, depth => '\n' :: List.replicate (2 * depth) ' '

/-- What stands between a colon and the value of a member. -/
def Layout.afterColon : Layout → List Char
  | .compact => []
  | .indented => [' ']

/-! ## Leaves -/

/-- How a character is written in a string literal: quotes, backslashes and control characters are
escaped, everything else stands for itself. -/
def escapeChar (c : Char) : List Char :=
  if c = '"' then ['\\', '"']
  else if c = '\\' then ['\\', '\\']
  else if c = '\n' then ['\\', 'n']
  else if c = '\r' then ['\\', 'r']
  else if c = '\t' then ['\\', 't']
  else if c = '\x08' then ['\\', 'b']
  else if c = '\x0c' then ['\\', 'f']
  else if c.toNat < 0x20 then
    ['\\', 'u', '0', '0', Nat.digitChar (c.toNat / 16), Nat.digitChar (c.toNat % 16)]
  else [c]

/-- A string literal. A value that is no text is written as half of a surrogate pair. -/
def renderString : Option String → List Char
  | some value => '"' :: (value.toList.flatMap escapeChar ++ ['"'])
  | none => ['"', '\\', 'u', 'd', '8', '0', '0', '"']

/-- The point of a number literal and the digits after it; nothing when there are none. -/
def renderFraction (fraction : List (Fin 10)) : List Char :=
  if fraction.isEmpty then [] else '.' :: fraction.map fun d => Nat.digitChar d.val

/-- The power of ten of a number literal. It always has a sign. -/
def renderExponent : Option Int → List Char
  | none => []
  | some e => 'e' :: (if e < 0 then '-' else '+') :: Text.decimalDigits e.natAbs

/-- A number literal. -/
def renderNumber (n : Number) : List Char :=
  (if n.negative then ['-'] else []) ++ Text.decimalDigits n.whole ++
    renderFraction n.fraction ++ renderExponent n.exponent

/-! ## Documents -/

mutual

/-- A document at the given depth. -/
def renderAt (layout : Layout) (depth : Nat) : Json → List Char
  | .null => ['n', 'u', 'l', 'l']
  | .bool true => ['t', 'r', 'u', 'e']
  | .bool false => ['f', 'a', 'l', 's', 'e']
  | .number n => renderNumber n
  | .string value => renderString value
  | .array [] => ['[', ']']
  | .array (item :: items) =>
    '[' :: (layout.gap (depth + 1) ++ renderAt layout (depth + 1) item ++
      renderItems layout depth items)
  | .object [] => ['\x7b', '\x7d']
  | .object ((key, value) :: members) =>
    '\x7b' :: (layout.gap (depth + 1) ++ renderString key ++ ':' :: layout.afterColon ++
      renderAt layout (depth + 1) value ++ renderMembers layout depth members)

/-- The items after the first one, and the closing bracket. -/
def renderItems (layout : Layout) (depth : Nat) : List Json → List Char
  | [] => layout.gap depth ++ [']']
  | item :: items =>
    ',' :: (layout.gap (depth + 1) ++ renderAt layout (depth + 1) item ++
      renderItems layout depth items)

/-- The members after the first one, and the closing brace. -/
def renderMembers (layout : Layout) (depth : Nat) : List (Option String × Json) → List Char
  | [] => layout.gap depth ++ ['\x7d']
  | (key, value) :: members =>
    ',' :: (layout.gap (depth + 1) ++ renderString key ++ ':' :: layout.afterColon ++
      renderAt layout (depth + 1) value ++ renderMembers layout depth members)

end

/-- The document on one line. -/
def compact (document : Json) : String :=
  String.ofList (renderAt .compact 0 document)

/-- The document with one item per line. -/
def pretty (document : Json) : String :=
  String.ofList (renderAt .indented 0 document)

end CodeSearch.Json
