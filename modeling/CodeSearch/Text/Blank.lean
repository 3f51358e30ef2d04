/-!
# Blank characters and trimming

Text is handled as a list of characters. `isBlank` is the Unicode property White_Space, and
`trim` removes the blank characters at both ends.

- `trimStartWhere p`, `trimEndWhere p`, `trimWhere p`: remove the leading, the trailing, or both
  runs of characters that satisfy `p`.
- `trim`: `trimWhere isBlank`.
- `isBlankText`: the text has no character besides blank ones.
-/

namespace CodeSearch.Text

/-- The Unicode property White_Space. -/
def isBlank (c : Char) : Bool :=
  let n := c.toNat
  (9 ≤ n && n ≤ 13) || n == 0x20 || n == 0x85 || n == 0xA0 || n == 0x1680 ||
    (0x2000 ≤ n && n ≤ 0x200A) || n == 0x2028 || n == 0x2029 || n == 0x202F ||
    n == 0x205F || n == 0x3000

/-- Removes the leading run of characters that satisfy `p`. -/
def trimStartWhere (p : Char → Bool) (text : List Char) : List Char :=
  text.dropWhile p

/-- Removes the trailing run of characters that satisfy `p`. -/
def trimEndWhere (p : Char → Bool) (text : List Char) : List Char :=
  (text.reverse.dropWhile p).reverse

/-- Removes the leading and the trailing run of characters that satisfy `p`. -/
def trimWhere (p : Char → Bool) (text : List Char) : List Char :=
  trimEndWhere p (trimStartWhere p text)

/-- Removes the blank characters at both ends. -/
def trim (text : List Char) : List Char :=
  trimWhere isBlank text

/-- Every character is blank. -/
def isBlankText (text : List Char) : Bool :=
  text.all isBlank

/-- A text without its blank ends, as a string. -/
def trimString (text : String) : String :=
  String.ofList (trim text.toList)

/-! ## Basic laws -/

@[simp] theorem trim_nil : trim [] = [] := rfl

theorem trimStartWhere_cons (p : Char → Bool) (c : Char) (text : List Char) :
    trimStartWhere p (c :: text) = if p c then trimStartWhere p text else c :: text := by
  simp only [trimStartWhere, List.dropWhile_cons]

end CodeSearch.Text
