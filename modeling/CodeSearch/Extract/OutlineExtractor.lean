import CodeSearch.Chunk
import CodeSearch.Outline

/-!
# Extraction from an outline

Chunks are the parts of an outline that are functions, components or imports. Their bounds come
from the outline, so braces in strings or comments do not matter.

- `functionSites`, `functionName?`: the functions, and the name each one goes by.
- `componentOf?`: the component that a declaration defines, if it defines one.
- `outlineChunks`: functions, then components, then imports, each in document order.
-/

namespace CodeSearch.Extract

/-! ## Text of a part -/

/-- The text after the first `bytes` bytes, if that is a place between two characters. -/
def dropBytes? : Nat → List Char → Option (List Char)
  | 0, text => some text
  | _ + 1, [] => none
  | bytes + 1, c :: text =>
    if c.utf8Size ≤ bytes + 1 then dropBytes? (bytes + 1 - c.utf8Size) text else none

/-- The first `bytes` bytes of a text, if they end between two characters, after the characters
`read` (latest first). -/
def takeBytes? (read : List Char) : Nat → List Char → Option (List Char)
  | 0, _ => some read.reverse
  | _ + 1, [] => none
  | bytes + 1, c :: text =>
    if c.utf8Size ≤ bytes + 1 then takeBytes? (c :: read) (bytes + 1 - c.utf8Size) text else none

/-- The text that a part covers; empty when its bounds are not places between two characters of the
source in this order. -/
def partText (source : List Char) (span : Span) : String :=
  if span.start ≤ span.stop then
    match (dropBytes? span.start source).bind (takeBytes? [] (span.stop - span.start)) with
    | some text => String.ofList text
    | none => ""
  else ""

/-- The text of the child that fills a field. -/
def fieldText? (source : List Char) (outline : Outline) (field : String) : Option String :=
  (outline.child? field).map fun child => partText source child.span

/-- The chunk of a part. -/
def partChunk (kind : ChunkKind) (name : Option String) (source : List Char) (file : FileInfo)
    (outline : Outline) : Chunk :=
  Chunk.named kind.word name (partText source outline.span) outline.span.firstRow
    outline.span.lastRow outline.kind file

/-! ## Functions -/

/-- The kinds of parts that are functions. -/
def functionKinds : List String :=
  ["function_declaration", "generator_function_declaration", "function_expression",
   "arrow_function", "method_definition"]

/-- The part is a function. -/
def isFunction (site : Site) : Bool := functionKinds.contains site.node.kind

/-- The name of a function: its own, or that of the variable it is the value of. -/
def functionName? (source : List Char) (site : Site) : Option String :=
  match fieldText? source site.node "name" with
  | some name => some name
  | none =>
    match site.parent with
    | some parent =>
      if parent.kind = "variable_declarator" then fieldText? source parent "name" else none
    | none => none

/-- The chunks of the functions of an outline. -/
def functionsOf (source : List Char) (file : FileInfo) (outline : Outline) : List Chunk :=
  (Site.collect isFunction [Site.root outline]).map fun site =>
    partChunk .function (functionName? source site) source file site.node

/-! ## Components -/

/-- The part is a declaration that may define a component. -/
def isDeclaration (site : Site) : Bool :=
  ["variable_declarator", "function_declaration", "class_declaration"].contains site.node.kind

/-- The name starts with a capital letter of ASCII. -/
def isCapitalised (name : String) : Bool :=
  match name.toList with
  | c :: _ => 'A' ≤ c && c ≤ 'Z'
  | [] => false

/-- `word` occurs in the text. -/
def mentions (word : List Char) : List Char → Bool
  | [] => word.isEmpty
  | c :: text => word.isPrefixOf (c :: text) || mentions word text

/-- The text of a call mentions one of the ways to wrap a component. -/
def wrapsComponent (text : String) : Bool :=
  mentions "React".toList text.toList || mentions "memo".toList text.toList ||
    mentions "forwardRef".toList text.toList

/-- The value of a variable is a component: a function, or a call that wraps one. -/
def isComponentValue (source : List Char) (value : Outline) : Bool :=
  if value.kind = "arrow_function" || value.kind = "function_expression" then true
  else if value.kind = "call_expression" then wrapsComponent (partText source value.span)
  else false

/-- The first heritage clause at or below a class names a component class. -/
def extendsComponent (source : List Char) (outline : Outline) : Bool :=
  match Site.collect (fun site => site.node.kind == "class_heritage") [Site.root outline] with
  | heritage :: _ => mentions "Component".toList (partText source heritage.node.span).toList
  | [] => false

/-- The component that a declaration defines: the name, and the part that is its chunk. -/
def componentOf? (source : List Char) (declaration : Outline) : Option (String × Outline) :=
  match fieldText? source declaration "name" with
  | none => none
  | some name =>
    if !isCapitalised name then none
    else if declaration.kind = "variable_declarator" then
      match declaration.child? "value" with
      | some value => if isComponentValue source value then some (name, value) else none
      | none => none
    else if declaration.kind = "class_declaration" then
      if extendsComponent source declaration then some (name, declaration) else none
    else some (name, declaration)

/-- The chunks of the components of an outline. -/
def componentsOf (source : List Char) (file : FileInfo) (outline : Outline) : List Chunk :=
  (Site.collect isDeclaration [Site.root outline]).filterMap fun site =>
    (componentOf? source site.node).map fun (name, part) =>
      partChunk .component (some name) source file part

/-! ## Imports -/

/-- The part is an import. -/
def isImportStatement (site : Site) : Bool := site.node.kind == "import_statement"

/-- The chunks of the imports of an outline. -/
def importStatementsOf (source : List Char) (file : FileInfo) (outline : Outline) : List Chunk :=
  (Site.collect isImportStatement [Site.root outline]).map fun site =>
    partChunk .importing none source file site.node

/-- The chunks of a file, found in its outline. -/
def outlineChunks (path content : String) (outline : Outline) : List Chunk :=
  let source := content.toList
  let file := FileInfo.of path content
  functionsOf source file outline ++ componentsOf source file outline ++
    importStatementsOf source file outline

end CodeSearch.Extract
