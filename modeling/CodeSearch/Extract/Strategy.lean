import CodeSearch.Extract.LineExtractor
import CodeSearch.Extract.OutlineExtractor
import CodeSearch.Language

/-!
# Extraction strategies

The chunks of a file are found in its outline or line by line.

- `Strategy`: which of the two is used; `auto` takes the outline wherever it can.
- `extract`: the chunks of a file, given the outline that a grammar made of it, if there is one.
-/

namespace CodeSearch

/-- How the chunks of a file are found. -/
inductive Strategy where
  | auto
  | outline
  | lines
  deriving DecidableEq, Repr, Inhabited

/-- Why no chunks can be found in a file. -/
inductive ExtractError where
  /-- The file is missing or its bytes are not a text. -/
  | unreadable (path : String)
  /-- No language is known for the file. -/
  | unsupportedLanguage (path : String)
  /-- The grammar of the language makes no outline of the text. -/
  | parse (path : String)
  deriving DecidableEq, Repr

def ExtractError.message : ExtractError → String
  | .unreadable path => "failed to read " ++ path
  | .unsupportedLanguage path => "no grammar for file: " ++ path
  | .parse path => "failed to parse " ++ path

namespace Strategy

/-- The name of a strategy. -/
def name : Strategy → String
  | .auto => "auto"
  | .outline => "syntax"
  | .lines => "pattern"

/-- Every strategy with its name. -/
def choices : List (String × Strategy) :=
  [(name .auto, .auto), (name .outline, .outline), (name .lines, .lines)]

/-- The chunks found in the outline. The file needs a language with a grammar, and the grammar must
have made an outline of it. -/
def extractOutline (path content : String) (outline : Option Outline) :
    Except ExtractError (List Chunk) :=
  match Language.ofPath? path with
  | none => .error (.unsupportedLanguage path)
  | some _ =>
    match outline with
    | none => .error (.parse path)
    | some outline => .ok (Extract.outlineChunks path content outline)

/-- The chunks of a file. The automatic strategy reads line by line what has no outline. -/
def extract (strategy : Strategy) (path content : String) (outline : Option Outline) :
    Except ExtractError (List Chunk) :=
  match strategy with
  | .outline => extractOutline path content outline
  | .lines => .ok (Extract.lineChunks path content)
  | .auto =>
    match extractOutline path content outline with
    | .ok chunks => .ok chunks
    | .error _ => .ok (Extract.lineChunks path content)

end Strategy

end CodeSearch
