import CodeSearch.Record

/-!
# Tables of chunks

A chunk table holds entries in the order of insertion, each under a number of its own. Numbers
increase and are never given twice, also not after a removal.

- `ChunkTable.add`: a new row at the end.
- `ChunkTable.removeId`: the table without the rows of an identifier.
- `ChunkTable.tally`: how often each value of a column occurs.
-/

namespace CodeSearch

/-- A row: an entry and its number. -/
structure Row where
  number : Nat
  entry : Entry
  deriving DecidableEq, Repr, Inhabited

/-- A table of chunks: its rows, oldest first, and the last number that was given. -/
structure ChunkTable where
  rows : List Row := []
  lastNumber : Nat := 0
  deriving DecidableEq, Repr, Inhabited

namespace ChunkTable

/-- The number that the next row gets. -/
def nextNumber (table : ChunkTable) : Nat := table.lastNumber + 1

/-- Adds an entry at the end, under the next number. -/
def add (table : ChunkTable) (entry : Entry) : ChunkTable :=
  { rows := table.rows ++ [⟨table.nextNumber, entry⟩], lastNumber := table.nextNumber }

/-- The rows of an identifier. -/
def rowsOf (table : ChunkTable) (id : String) : List Row :=
  table.rows.filter fun row => row.entry.id == id

/-- The table without the rows of an identifier. -/
def removeId (table : ChunkTable) (id : String) : ChunkTable :=
  { table with rows := table.rows.filter fun row => !(row.entry.id == id) }

/-- The row with the given number. -/
def row? (table : ChunkTable) (number : Nat) : Option Row :=
  table.rows.find? fun row => row.number == number

/-- The values of a column, each once and in increasing order, with the number of rows that hold
it. -/
def tally (table : ChunkTable) (column : Entry → String) : List (String × Nat) :=
  let values := table.rows.map fun row => column row.entry
  (values.eraseDups.mergeSort fun a b => a ≤ b).map fun value => (value, values.count value)

@[simp] theorem rows_add (table : ChunkTable) (entry : Entry) :
    (table.add entry).rows = table.rows ++ [⟨table.lastNumber + 1, entry⟩] := rfl

@[simp] theorem rows_removeId (table : ChunkTable) (id : String) :
    (table.removeId id).rows = table.rows.filter fun row => !(row.entry.id == id) := rfl

end ChunkTable

end CodeSearch
