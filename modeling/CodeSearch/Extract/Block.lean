/-!
# Blocks bounded by braces

The body of a declaration is taken to run to the line on which the braces opened since its start
are closed again. Braces are counted wherever they stand, in strings and comments too.

- `closesAfter`: the first line at which the running count of open braces is no longer positive.
- `closing`: the same, counted from the first line that holds an opening brace.
- `blockEnd`: the line on which the block that starts at a given line ends; the last line when it
  never does.
-/

namespace CodeSearch.Extract

/-- Opening braces less closing braces of a line. -/
def braceBalance (line : List Char) : Int :=
  (line.count '\x7b' : Int) - line.count '\x7d'

/-- The line holds an opening brace. -/
def opensBlock (line : List Char) : Bool := line.contains '\x7b'

/-- The index of the first line at whose end the count of open braces, `depth` before the first
line, is not positive. -/
def closesAfter (depth : Int) : List (List Char) → Option Nat
  | [] => none
  | line :: rest =>
    if depth + braceBalance line ≤ 0 then some 0
    else (closesAfter (depth + braceBalance line) rest).map (· + 1)

/-- The index of the line that closes the block opened by the first line with an opening brace. -/
def closing : List (List Char) → Option Nat
  | [] => none
  | line :: rest =>
    if opensBlock line then closesAfter 0 (line :: rest) else (closing rest).map (· + 1)

/-- The index of the line on which the block that starts at line `start` ends. -/
def blockEnd (lines : List (List Char)) (start : Nat) : Nat :=
  match closing (lines.drop start) with
  | some index => start + index
  | none => lines.length - 1

end CodeSearch.Extract
