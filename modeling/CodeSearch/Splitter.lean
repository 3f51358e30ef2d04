import CodeSearch.Text.Utf8

/-!
# Splitting code into windows

Code that is too long to be stored in one record is split into windows that overlap. It is first
cut into pieces: at blank lines, what is still too long at line feeds, then at spaces, then into
single characters. A separator stays with the piece it ends, so the pieces tile the text. Pieces
are then packed into windows from left to right, and each window starts with the last pieces of the
one before, as far as they fit.

- `splitAfter`: cuts after every occurrence of a separator.
- `cut`: the pieces of a text.
- `pack`: the windows, as lists of pieces.
- `Splitter.windows`: the windows of a text; a text that fits is its only window.
- `Splitter.split`, `Splitter.ranges`: the texts of the windows, and the bytes they cover.

Lengths are counted in characters.
-/

namespace CodeSearch

/-- The bounds of a splitter: the longest window and the longest overlap. -/
structure Splitter where
  size : Nat
  overlap : Nat
  overlap_lt_size : overlap < size
  deriving DecidableEq, Repr

namespace Splitter

/-- The splitter for the given bounds. A window holds at least one character, and the overlap is
shorter than a window. -/
def ofBounds (size overlap : Nat) : Splitter :=
  { size := max size 1
    overlap := min overlap (max size 1 - 1)
    overlap_lt_size := by omega }

/-- The bounds that are used unless others are given. -/
def default : Splitter := ofBounds 1000 200

instance : Inhabited Splitter := ⟨default⟩

/-! ## Pieces -/

/-- The separators, from the one that ends the largest units to the one that ends the smallest. -/
def separators : List (List Char) := [['\n', '\n'], ['\n'], [' ']]

/-- Cuts a text after every occurrence of a separator, found from left to right without overlap.
`skip` characters belong to an occurrence that has begun, and `piece` holds the characters since
the last cut, latest first. -/
def splitAfterFrom (separator : List Char) (skip : Nat) (piece : List Char)
    (pieces : List (List Char)) : List Char → List (List Char)
  | [] => (if piece.isEmpty then pieces else piece.reverse :: pieces).reverse
  | c :: rest =>
    let piece := c :: piece
    match skip with
    | skip + 1 =>
      if skip = 0 then splitAfterFrom separator 0 [] (piece.reverse :: pieces) rest
      else splitAfterFrom separator skip piece pieces rest
    | 0 =>
      if separator.isPrefixOf (c :: rest) then
        if separator.length ≤ 1 then
          splitAfterFrom separator 0 [] (piece.reverse :: pieces) rest
        else splitAfterFrom separator (separator.length - 1) piece pieces rest
      else splitAfterFrom separator 0 piece pieces rest

/-- The pieces of a text between the ends of the occurrences of a separator. No piece is empty. -/
def splitAfter (separator text : List Char) : List (List Char) :=
  splitAfterFrom separator 0 [] [] text

/-- The separator occurs in the text. -/
def occursIn (separator : List Char) : List Char → Bool
  | [] => separator.isEmpty
  | c :: rest => separator.isPrefixOf (c :: rest) || occursIn separator rest

/-- Cuts a text into pieces of at most `size` characters: at the first of the separators that
occurs, and what is still too long at the later ones; into single characters when none is left. -/
def cut (size : Nat) : List (List Char) → List Char → List (List Char)
  | [], text => text.map fun c => [c]
  | separator :: separators, text =>
    if occursIn separator text then
      (splitAfter separator text).flatMap fun piece =>
        if piece.length ≤ size then [piece] else cut size separators piece
    else cut size separators text

/-! ## Windows -/

/-- A piece of a text and the number of bytes before it. -/
structure Piece where
  offset : Nat
  text : List Char
  deriving DecidableEq, Repr, Inhabited

/-- The number of bytes up to the end of a piece. -/
def Piece.stop (piece : Piece) : Nat := piece.offset + Text.Utf8.size piece.text

/-- Pieces with their places, the first one `offset` bytes into the text. -/
def place (offset : Nat) : List (List Char) → List Piece
  | [] => []
  | text :: texts => ⟨offset, text⟩ :: place (offset + Text.Utf8.size text) texts

/-- The number of characters in a list of pieces. -/
def length : List Piece → Nat
  | [] => 0
  | piece :: pieces => piece.text.length + length pieces

/-- Drops pieces from the start of a full window that has `total` characters, until at most
`overlap` characters are left and a piece of `next` characters fits behind them. What is left, and
the number of its characters. -/
def shed (splitter : Splitter) (next total : Nat) : List Piece → List Piece × Nat
  | [] => ([], total)
  | piece :: pieces =>
    if splitter.overlap < total || splitter.size < total + next then
      splitter.shed next (total - piece.text.length) pieces
    else (piece :: pieces, total)

/-- Packs pieces into windows behind the window `current` (latest piece first), which has `total`
characters. A window that cannot take the next piece is full, and what it does not shed starts the
next one. -/
def packFrom (splitter : Splitter) (current : List Piece) (total : Nat) :
    List Piece → List (List Piece)
  | [] => if current.isEmpty then [] else [current.reverse]
  | piece :: pieces =>
    if splitter.size < total + piece.text.length && !current.isEmpty then
      let (kept, left) := splitter.shed piece.text.length total current.reverse
      current.reverse ::
        packFrom splitter (piece :: kept.reverse) (left + piece.text.length) pieces
    else packFrom splitter (piece :: current) (total + piece.text.length) pieces

/-- Packs pieces into windows. -/
def pack (splitter : Splitter) (pieces : List Piece) : List (List Piece) :=
  packFrom splitter [] 0 pieces

/-- The windows of a text, as lists of pieces. A text that fits is one piece. -/
def windows (splitter : Splitter) (text : List Char) : List (List Piece) :=
  if text.length ≤ splitter.size then [[⟨0, text⟩]]
  else splitter.pack (place 0 (cut splitter.size separators text))

/-- The text of a window. -/
def windowText (window : List Piece) : List Char :=
  window.flatMap Piece.text

/-- The bytes that a window covers: the first one, and the first one after it. -/
def windowRange (window : List Piece) : Nat × Nat :=
  ((window.head?.map Piece.offset).getD 0, (window.getLast?.map Piece.stop).getD 0)

/-- The texts of the windows of a text. -/
def split (splitter : Splitter) (code : String) : List String :=
  (splitter.windows code.toList).map fun window => String.ofList (windowText window)

/-- The bytes that the windows of a text cover. -/
def ranges (splitter : Splitter) (code : String) : List (Nat × Nat) :=
  (splitter.windows code.toList).map windowRange

/-! ## Laws -/

theorem one_le_size (splitter : Splitter) : 1 ≤ splitter.size :=
  Nat.lt_of_le_of_lt (Nat.zero_le _) splitter.overlap_lt_size

@[simp] theorem length_nil : length [] = 0 := rfl

@[simp] theorem length_cons (piece : Piece) (pieces : List Piece) :
    length (piece :: pieces) = piece.text.length + length pieces := rfl

end Splitter

end CodeSearch
