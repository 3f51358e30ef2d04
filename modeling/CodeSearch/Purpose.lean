import CodeSearch.Text.Blank
import CodeSearch.Text.Lines

/-!
# The purpose of a piece of code

The first comment in a piece of code is taken as a statement of its purpose.

- `Comment`: the comment forms that a line can start with.
- `Comment.ofLine?`: the form of a trimmed line; a line that starts with `*` counts only while a
  block comment is open.
- `Comment.body`: the text of the line without the marker, up to the end of a block comment.
- `purposeLine`: the first comment text that is not empty.
-/

namespace CodeSearch

/-- The comment forms that a line can start with. -/
inductive Comment where
  | docstring
  | blockStart
  | blockRest
  | line
  | hash
  deriving DecidableEq, Repr

namespace Comment

/-- The text before the first `*/`, and whether there is one. -/
def untilBlockEnd : List Char → List Char × Bool
  | '*' :: '/' :: _ => ([], true)
  | c :: rest =>
    let (text, closed) := untilBlockEnd rest
    (c :: text, closed)
  | [] => ([], false)

/-- The rest of a line that starts with `#`, if it is a comment: what follows the run of `#` is
empty or starts with a blank. A shebang or a private member is code. -/
def hashRest? (line : List Char) : Option (List Char) :=
  match line with
  | '#' :: rest =>
    let rest := Text.trimStartWhere (· == '#') rest
    match rest with
    | [] => some rest
    | c :: _ => if Text.isBlank c then some rest else none
  | _ => none

/-- The comment form of a trimmed line, if it is a comment. -/
def ofLine? (inBlock : Bool) (line : List Char) : Option Comment :=
  if ['"', '"', '"'].isPrefixOf line || ['\'', '\'', '\''].isPrefixOf line then some .docstring
  else if ['/', '*'].isPrefixOf line then some .blockStart
  else if inBlock && ['*'].isPrefixOf line then some .blockRest
  else if ['/', '/'].isPrefixOf line then some .line
  else if (hashRest? line).isSome then some .hash
  else none

/-- The text of a comment line without its marker. -/
def body (form : Comment) (line : List Char) : List Char :=
  match form with
  | .docstring => Text.trimWhere (fun c => c == '"' || c == '\'') line
  | .blockStart => Text.trimStartWhere (· == '*') (untilBlockEnd (line.drop 2)).1
  | .blockRest => Text.trimStartWhere (· == '*') (untilBlockEnd line).1
  | .line => Text.trimStartWhere (· == '/') (line.drop 2)
  | .hash => (hashRest? line).getD []

/-- Whether a block comment is open after the line. Only a line that starts or continues a block
comment changes it. -/
def blockAfter (form : Comment) (inBlock : Bool) (line : List Char) : Bool :=
  match form with
  | .blockStart => !(untilBlockEnd (line.drop 2)).2
  | .blockRest => !(untilBlockEnd line).2
  | _ => inBlock

end Comment

/-- The first comment text in a list of lines, within a block comment if `inBlock`. -/
def purposeOfLines (inBlock : Bool) : List (List Char) → Option (List Char)
  | [] => none
  | row :: rows =>
    let line := Text.trim row
    match Comment.ofLine? inBlock line with
    | none => purposeOfLines inBlock rows
    | some form =>
      let text := Text.trim (form.body line)
      if text.isEmpty then purposeOfLines (form.blockAfter inBlock line) rows else some text

/-- The first comment text in a piece of code that is not empty. -/
def purposeLine (code : String) : Option String :=
  (purposeOfLines false (Text.lines (Text.trim code.toList))).map String.ofList

end CodeSearch
