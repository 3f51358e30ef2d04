import CodeSearch.Text.Blank
import CodeSearch.Text.Word

/-!
# Declarations recognised by their first line

A line that starts a function has one of a few shapes, such as `function name(…) {` or
`const name = (…) => {`. Each shape is recognised at a given place of the line, and the leftmost
place that fits decides the name.

- `Shape.name?`: the name, if the text starts with the shape.
- `LinePattern`: a shape, whether its name must start with a capital, and the node type it gives.
- `functionPatterns`, `componentPatterns`: the patterns in order of precedence.
- `declaration?`: the first pattern that fits somewhere in a line.
- `isImport`: the line is an import.
-/

namespace CodeSearch.Extract

/-! ## Parts of a line -/

/-- The text after its leading blanks. -/
def skipBlanks (text : List Char) : List Char := text.dropWhile Text.isBlank

/-- The text after its leading blanks, of which there is at least one. -/
def blanks? (text : List Char) : Option (List Char) :=
  match text with
  | c :: rest => if Text.isBlank c then some (skipBlanks rest) else none
  | [] => none

/-- The text after `word`, if it starts with it. -/
def after? (word text : List Char) : Option (List Char) :=
  if word.isPrefixOf text then some (text.drop word.length) else none

/-- The longest run of word characters at the start, which is not empty, and the text after it. -/
def word? (text : List Char) : Option (List Char × List Char) :=
  match text.takeWhile Text.isWord with
  | [] => none
  | name => some (name, text.dropWhile Text.isWord)

/-- The text after a parameter list: an opening parenthesis and everything up to the first closing
one. -/
def parameters? (text : List Char) : Option (List Char) :=
  match text with
  | '(' :: rest =>
    match rest.dropWhile (· != ')') with
    | _ :: rest => some rest
    | [] => none
  | _ => none

/-- The text after the `=` that follows a declared name: blanks, a type from `:` on up to the first
`=`, and the `=` itself. -/
def assignment? (text : List Char) : Option (List Char) :=
  match skipBlanks text with
  | '=' :: rest => some rest
  | ':' :: rest =>
    match rest.dropWhile (· != '=') with
    | _ :: rest => some rest
    | [] => none
  | _ => none

/-- The text after the word `async` and the blanks that follow it, or the text itself. -/
def skipAsync (text : List Char) : List Char :=
  ((after? ['a', 's', 'y', 'n', 'c'] text).bind blanks?).getD text

/-- The text starts with a parameter list, blanks and the character `opener`. -/
def parametersThen (opener : Char) (text : List Char) : Bool :=
  match parameters? text with
  | some rest => (skipBlanks rest).head? == some opener
  | none => false

/-- The text starts with a parameter list, an arrow and the character `opener`. -/
def arrowThen (opener : Char) (text : List Char) : Bool :=
  match (parameters? text).bind fun rest => after? ['=', '>'] (skipBlanks rest) with
  | some rest => (skipBlanks rest).head? == some opener
  | none => false

/-! ## Shapes -/

/-- The shapes of a line that starts a function. -/
inductive Shape where
  /-- The keyword, a name, parameters and an opening brace. -/
  | function
  /-- A constant that is an arrow function whose body starts with the given character. -/
  | arrow (opener : Char)
  /-- A default export of a function. -/
  | exportedFunction
  /-- A name, parameters and an opening brace. -/
  | method
  deriving DecidableEq, Repr

/-- The keywords of a function declaration, as texts. -/
def functionWord : List Char := ['f', 'u', 'n', 'c', 't', 'i', 'o', 'n']

/-- A name that is admitted, parameters and an opening brace. -/
def namedBody? (admits : List Char → Bool) (text : List Char) : Option (List Char) :=
  match word? text with
  | some (name, rest) =>
    if admits name && parametersThen '\x7b' (skipBlanks rest) then some name else none
  | none => none

/-- The keyword of a function, a name that is admitted, parameters and an opening brace. -/
def declaredFunction? (admits : List Char → Bool) (text : List Char) : Option (List Char) :=
  ((after? functionWord text).bind blanks?).bind (namedBody? admits)

/-- A constant with a name that is admitted, whose value is an arrow function. -/
def declaredArrow? (opener : Char) (admits : List Char → Bool) (text : List Char) :
    Option (List Char) :=
  match ((after? ['c', 'o', 'n', 's', 't'] text).bind blanks?).bind word? with
  | some (name, rest) =>
    match assignment? rest with
    | some value =>
      if admits name && arrowThen opener (skipAsync (skipBlanks value)) then some name else none
    | none => none
  | none => none

/-- The keywords of a default export and a function after them. -/
def declaredExport? (admits : List Char → Bool) (text : List Char) : Option (List Char) :=
  (((after? ['e', 'x', 'p', 'o', 'r', 't'] text).bind blanks?).bind fun rest =>
    (after? ['d', 'e', 'f', 'a', 'u', 'l', 't'] rest).bind blanks?).bind (declaredFunction? admits)

/-- The declared name, if the text starts with the shape and the name is admitted. -/
def Shape.name? (shape : Shape) (admits : List Char → Bool) (text : List Char) :
    Option (List Char) :=
  match shape with
  | .function => declaredFunction? admits text
  | .arrow opener => declaredArrow? opener admits text
  | .exportedFunction => declaredExport? admits text
  | .method => namedBody? admits text

/-- The result of `read` at the leftmost place of a text where it has one. -/
def leftmost? (read : List Char → Option (List Char)) : List Char → Option (List Char)
  | [] => read []
  | c :: rest =>
    match read (c :: rest) with
    | some result => some result
    | none => leftmost? read rest

/-! ## Patterns -/

/-- A shape to look for, and the node type of the chunk that it gives. -/
structure LinePattern where
  shape : Shape
  capitalised : Bool
  nodeType : String
  deriving DecidableEq, Repr

/-- The name starts with a capital letter. -/
def startsWithCapital (name : List Char) : Bool :=
  match name with
  | c :: _ => Text.isCapital c
  | [] => false

/-- The name that a pattern finds in a line. -/
def LinePattern.name? (pattern : LinePattern) (line : List Char) : Option (List Char) :=
  leftmost?
    (pattern.shape.name? fun name => !pattern.capitalised || startsWithCapital name) line

/-- The node type of a method. -/
def methodType : String := "method_definition"

/-- The patterns for functions, in order of precedence. -/
def functionPatterns : List LinePattern :=
  [⟨.function, false, "function_declaration"⟩,
   ⟨.arrow '\x7b', false, "arrow_function"⟩,
   ⟨.arrow '(', false, "arrow_function"⟩,
   ⟨.method, false, methodType⟩]

/-- The patterns for components, the capitalised forms of functions, in order of precedence. -/
def componentPatterns : List LinePattern :=
  [⟨.arrow '\x7b', true, "arrow_component"⟩,
   ⟨.arrow '(', true, "arrow_component"⟩,
   ⟨.exportedFunction, true, "default_export_component"⟩,
   ⟨.function, true, "function_component"⟩]

/-- The first pattern that fits a line: the name found and the node type. -/
def firstMatch? (patterns : List LinePattern) (line : List Char) :
    Option (List Char × String) :=
  patterns.findSome? fun pattern =>
    (pattern.name? line).map fun name => (name, pattern.nodeType)

/-- The keywords that are followed by parentheses and a brace without being a method. -/
def controlWords : List String :=
  ["if", "for", "while", "switch", "catch", "with", "function"]

/-- The declaration that a line starts: the first pattern that fits, unless the name of a method is
a control keyword. -/
def declaration? (patterns : List LinePattern) (line : List Char) :
    Option (List Char × String) :=
  match firstMatch? patterns line with
  | some (name, nodeType) =>
    if nodeType = methodType && controlWords.contains (String.ofList name) then none
    else some (name, nodeType)
  | none => none

/-- A trimmed line is an import: the keyword, a blank, and a rest without a line feed. -/
def isImport (line : List Char) : Bool :=
  match (after? ['i', 'm', 'p', 'o', 'r', 't'] line).bind blanks? with
  | some rest => !rest.contains '\n'
  | none => false

end CodeSearch.Extract
