import CodeSearch.Vector

/-!
# Tables of vectors

A vector table keeps the bytes of the vector of each row number in blocks of 1024 slots. A new
vector takes the lowest free slot of the newest block, or the first slot of a new one when that
block is full. Removing a vector frees its slot, and a block without vectors is dropped.

- `VectorTable.add`, `VectorTable.remove`, `VectorTable.bytes?`.
- `VectorTable.nearest`: the row numbers of the vectors nearest to a query, nearest first. Among
  equal distances, older blocks come before newer ones and higher slots before lower ones. Vectors
  whose distance is no number are the first to be left out, but come first if they are not.
-/

namespace CodeSearch

/-- The bytes of a vector and the number of its row. -/
structure Slot where
  number : Nat
  bytes : List UInt8
  deriving DecidableEq, Repr, Inhabited

/-- The slots of a block from the lowest one on; slots beyond the end of the list are free. -/
abbrev Block := List (Option Slot)

/-- A table of vectors with a fixed number of dimensions, oldest block first. -/
structure VectorTable where
  dimensions : Nat
  blocks : List Block := []
  deriving DecidableEq, Repr, Inhabited

/-! ## Blocks -/

namespace Block

/-- The number of slots of a block. -/
def capacity : Nat := 1024

/-- Puts a slot into the lowest free place of a list of slots. -/
def fill (slot : Slot) : List (Option Slot) → List (Option Slot)
  | [] => [some slot]
  | none :: rest => some slot :: rest
  | some other :: rest => some other :: fill slot rest

/-- Every place of the block is taken. -/
def isFull (block : Block) : Bool :=
  capacity ≤ block.length && block.all Option.isSome

/-- The vectors of a block, lowest slot first. -/
def slots (block : Block) : List Slot := block.filterMap id

/-- Frees the slots with the given row numbers. -/
def free (numbers : List Nat) (block : Block) : Block :=
  block.map fun slot? =>
    match slot? with
    | some slot => if numbers.contains slot.number then none else some slot
    | none => none

end Block

namespace VectorTable

/-- The largest number of dimensions of a table. -/
def maxDimensions : Nat := 8192

/-- Adds a slot to a list of blocks. -/
def addSlot (slot : Slot) : List Block → List Block
  | [] => [[some slot]]
  | [block] =>
    if Block.isFull block then [block, [some slot]] else [Block.fill slot block]
  | block :: blocks => block :: addSlot slot blocks

/-- Adds the bytes of the vector of a row. -/
def add (table : VectorTable) (number : Nat) (bytes : List UInt8) : VectorTable :=
  { table with blocks := addSlot ⟨number, bytes⟩ table.blocks }

/-- Removes the vectors of the given rows. -/
def remove (table : VectorTable) (numbers : List Nat) : VectorTable :=
  { table with
    blocks := (table.blocks.map (Block.free numbers)).filter fun block => block.any Option.isSome }

/-- All vectors, oldest block and lowest slot first. -/
def slots (table : VectorTable) : List Slot := table.blocks.flatMap Block.slots

/-- The bytes in a place of a block, if they belong to the given row. -/
def bytesIn? (number : Nat) (place : Option Slot) : Option (List UInt8) :=
  match place with
  | some slot => if slot.number = number then some slot.bytes else none
  | none => none

/-- The bytes of the vector of a row. -/
def bytes? (table : VectorTable) (number : Nat) : Option (List UInt8) :=
  table.blocks.findSome? fun block => block.findSome? (bytesIn? number)

/-! ## Nearest vectors -/

/-- A row number and the distance of its vector from the query. -/
structure Ranked where
  number : Nat
  distance : Single
  deriving DecidableEq, Repr, Inhabited

/-- The candidates of a block, lowest slot first. -/
def rank (query : Vector) (block : Block) : List Ranked :=
  (Block.slots block).map fun slot =>
    ⟨slot.number, Vector.distance (Vector.decode slot.bytes) query⟩

/-- The nearer of two candidates; the later one when both are equally near. -/
def nearer (best candidate : Ranked) : Ranked :=
  if candidate.distance.le best.distance then candidate else best

/-- The `count` nearest of a list of candidates, nearest first, taken one by one. -/
def pickNearest : Nat → List Ranked → List Ranked
  | 0, _ => []
  | _ + 1, [] => []
  | count + 1, first :: rest =>
    let best := rest.foldl nearer first
    best :: pickNearest count ((first :: rest).filter fun other => other.number != best.number)

/-- Merges two lists of candidates, the first of two equally near ones from the first list. -/
def mergeRanked (found later : List Ranked) : List Ranked :=
  found.merge later fun a b => a.distance.le b.distance

/-- The `count` nearest candidates of all blocks. -/
def candidates (table : VectorTable) (query : Vector) (count : Nat) : List Ranked :=
  table.blocks.foldl
    (fun found block => (mergeRanked found (pickNearest count (rank query block))).take count) []

/-- The order of the candidates that were found: by distance, behind those without a distance. -/
def Ranked.notAfter (a b : Ranked) : Bool :=
  a.distance.isNaN || (!b.distance.isNaN && a.distance.le b.distance)

/-- The row numbers of the `count` vectors nearest to a query, nearest first. -/
def nearest (table : VectorTable) (query : Vector) (count : Nat) : List Nat :=
  ((table.candidates query count).mergeSort Ranked.notAfter).map Ranked.number

end VectorTable

end CodeSearch
