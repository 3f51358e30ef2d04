/-!
# Outlines

An outline is the tree of named parts that a grammar finds in a text. Each part has a kind, the
stretch of text it covers, and possibly the name of the field it fills in the part around it.

- `Outline`: the tree.
- `Outline.ofRows?`: the tree of a list of rows in document order, each naming its parent by index.
- `Site`: a part together with the part around it.
- `Site.collect`: the parts below a site that satisfy a test, found with a list of pending sites.
- `Site.preorder`: all parts below a site in document order, by recursion on the tree.
-/

namespace CodeSearch

/-- A stretch of text: the first byte, the first byte after it, and the rows of both. -/
structure Span where
  start : Nat
  stop : Nat
  firstRow : Nat
  lastRow : Nat
  deriving DecidableEq, Repr, Inhabited

/-- A part of a text and the parts within it, from left to right. -/
inductive Outline where
  | node (kind : String) (field : Option String) (span : Span) (children : List Outline)
  deriving Inhabited, Repr

namespace Outline

def kind : Outline → String
  | .node kind _ _ _ => kind

/-- The field that the part fills in the part around it. -/
def field : Outline → Option String
  | .node _ field _ _ => field

def span : Outline → Span
  | .node _ _ span _ => span

def children : Outline → List Outline
  | .node _ _ _ children => children

/-- The first child that fills the given field. -/
def child? (outline : Outline) (field : String) : Option Outline :=
  outline.children.find? fun child => child.field == some field

mutual

/-- The number of parts of an outline. -/
def count : Outline → Nat
  | .node _ _ _ children => countAll children + 1

/-- The number of parts of all outlines in a list. -/
def countAll : List Outline → Nat
  | [] => 0
  | outline :: rest => count outline + countAll rest

end

theorem countAll_append (xs ys : List Outline) :
    countAll (xs ++ ys) = countAll xs + countAll ys := by
  induction xs with
  | nil => simp [countAll]
  | cons x xs ih => simp [countAll, ih, Nat.add_assoc]

/-! ## Outlines from rows -/

/-- One part of an outline in a list in document order: the index of the part around it, if there
is one, and what it is. -/
structure Row where
  parent : Option Nat
  kind : String
  field : Option String
  span : Span
  deriving Repr, Inhabited

/-- Attaches the last row of a list to its parent: the outlines of the rows after it are already
children of theirs, and `children` holds the children found so far for each index. -/
def attach (children : Array (List Outline)) (row : Row × Nat) : Array (List Outline) :=
  let outline := Outline.node row.1.kind row.1.field row.1.span (children.getD row.2 [])
  match row.1.parent with
  | some parent => children.modify parent (outline :: ·)
  | none => children.modify 0 fun found => found ++ [outline]

/-- The outline of a list of rows in document order. The first row is the root. -/
def ofRows? (rows : List Row) : Option Outline :=
  match rows with
  | [] => none
  | root :: rest =>
    let children := (rest.zipIdx 1).foldr (fun row children => attach children row)
      (Array.replicate rows.length [])
    some (.node root.kind root.field root.span (children.getD 0 []))

end Outline

/-! ## Traversal -/

/-- A part of an outline and the part around it, if there is one. -/
structure Site where
  parent : Option Outline
  node : Outline
  deriving Inhabited, Repr

namespace Site

/-- The root of an outline. -/
def root (outline : Outline) : Site := ⟨none, outline⟩

/-- The sites of the children. -/
def children (site : Site) : List Site :=
  site.node.children.map fun child => ⟨some site.node, child⟩

/-- The number of parts at and below the sites of a list. -/
def countAll (sites : List Site) : Nat :=
  Outline.countAll (sites.map Site.node)

theorem countAll_children (site : Site) : countAll site.children + 1 = site.node.count := by
  obtain ⟨parent, kind, field, span, children⟩ := site
  simp [countAll, Site.children, Outline.children, Outline.count, Function.comp_def]

/-- The sites that satisfy `keep` among the pending ones and everything below them. The next site
is taken from the front, and its children take its place. -/
def collect (keep : Site → Bool) : List Site → List Site
  | [] => []
  | site :: pending =>
    let later := collect keep (site.children ++ pending)
    if keep site then site :: later else later
termination_by pending => countAll pending
decreasing_by
  have := countAll_children site
  simp only [countAll, List.map_append, List.map_cons, Outline.countAll,
    Outline.countAll_append] at *
  omega

mutual

/-- All sites of an outline in document order: a part comes before its children, and children come
from left to right. -/
def preorder (parent : Option Outline) : Outline → List Site
  | .node kind field span children =>
    ⟨parent, .node kind field span children⟩ ::
      preorderAll (some (.node kind field span children)) children

/-- The sites of a list of outlines with the same parent. -/
def preorderAll (parent : Option Outline) : List Outline → List Site
  | [] => []
  | outline :: rest => preorder parent outline ++ preorderAll parent rest

end

end Site

end CodeSearch
