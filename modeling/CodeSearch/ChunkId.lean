import CodeSearch.Text.Decimal

/-!
# Chunk identifiers

A stored part of a chunk is identified by where the chunk starts and what it is:
`path:kind:name:line`, followed by `:part_i` when the chunk was stored in more than one part. The
same input always gives the same identifier.
-/

namespace CodeSearch

/-- The identifier of part `partIndex` of the `totalParts` parts of a chunk. -/
def chunkId (path kind name : String) (startLine partIndex totalParts : Nat) : String :=
  let base := path ++ ":" ++ kind ++ ":" ++ name ++ ":" ++ Text.decimal startLine
  if totalParts > 1 then base ++ ":part_" ++ Text.decimal partIndex else base

end CodeSearch
