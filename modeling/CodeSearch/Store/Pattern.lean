import CodeSearch.Text.Utf8

/-!
# Search patterns

A pattern matches a whole text: `%` stands for any stretch of text, `_` for any one character, and
a backslash takes away the meaning of the character after it. Letters of ASCII match without regard
to case, all other characters exactly, except that the two noncharacters U+FFFE and U+FFFF are read
as U+FFFD. Both pattern and text end before the first U+0000.

- `Pattern.tokens`, `Pattern.matchTokens`, `Pattern.matchesText`: the matching.
- `Pattern.containing`: the pattern of the texts that contain a keyword.
-/

namespace CodeSearch.Pattern

/-- One element of a pattern. -/
inductive Token where
  | anyText
  | anyChar
  | literal (c : Char)
  deriving DecidableEq, Repr

/-- The character as it is compared. -/
def fold (c : Char) : Char :=
  if c.toNat = 0xFFFE || c.toNat = 0xFFFF then '\uFFFD' else c.toLower

/-- The elements of a pattern. A backslash at the very end stands for itself. -/
def tokens : List Char → List Token
  | [] => []
  | '\\' :: c :: rest => .literal c :: tokens rest
  | c :: rest =>
    (if c = '%' then .anyText else if c = '_' then .anyChar else .literal c) :: tokens rest

/-- The elements match the whole text. -/
def matchTokens : List Token → List Char → Bool
  | [], text => text.isEmpty
  | .anyText :: rest, [] => matchTokens rest []
  | .anyText :: rest, c :: text =>
    matchTokens rest (c :: text) || matchTokens (.anyText :: rest) text
  | .anyChar :: _, [] => false
  | .anyChar :: rest, _ :: text => matchTokens rest text
  | .literal _ :: _, [] => false
  | .literal a :: rest, c :: text => fold a == fold c && matchTokens rest text
termination_by pattern text => pattern.length + text.length

/-- The text before the first U+0000. -/
def untilNul (text : List Char) : List Char := text.takeWhile (· != '\x00')

/-- The pattern matches the whole text. -/
def matchesText (pattern text : List Char) : Bool :=
  matchTokens (tokens (untilNul pattern)) (untilNul text)

/-- A keyword in which no character has a special meaning. -/
def escape (keyword : List Char) : List Char :=
  keyword.flatMap fun c => if c = '\\' || c = '%' || c = '_' then ['\\', c] else [c]

/-- The pattern of the texts that contain a keyword. -/
def containing (keyword : List Char) : List Char :=
  '%' :: (escape keyword ++ ['%'])

/-- The number of bytes that a pattern may have. -/
def maxSize : Nat := 50000

/-- The pattern is longer than allowed. -/
def isTooLong (pattern : List Char) : Bool := maxSize < Text.Utf8.size pattern

end CodeSearch.Pattern
