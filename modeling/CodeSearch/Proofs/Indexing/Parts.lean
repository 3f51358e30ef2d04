import CodeSearch.Indexing
import CodeSearch.Proofs.Json.Records
import Mathlib.Algebra.Order.Ring.Nat

/-!
# The record of a part

What indexing stores for one window of a chunk, field by field, and where the windows of a chunk
stand among those of all chunks.

- `IsRecordOf`: a record says everything about its window, given what the provider answered.
- `Indexer.parts_getElem?`: the place of a window among all parts.
-/

namespace CodeSearch

/-! ## Records -/

/-- A saturated count is the count, or the largest number of 32 bits. -/
theorem Part.toInt_saturate (n : Nat) : (saturate n).toInt = min n (2 ^ 31 - 1) := by
  have hlow : -2 ^ 31 ≤ ((min n 0x7FFFFFFF : Nat) : Int) := by omega
  have hhigh : ((min n 0x7FFFFFFF : Nat) : Int) < 2 ^ 31 := by omega
  have hmin : ((min n 0x7FFFFFFF : Nat) : Int) = min n (2 ^ 31 - 1) := by omega
  exact (Int32.toInt_ofInt_of_le hlow hhigh).trans hmin

/-- What a provider answers, with the zero vector for a failure. -/
def vectorOr (dimensions : Nat) (answer : Except EmbedError Vector) : Vector :=
  match answer with
  | .ok vector => vector
  | .error _ => Vector.zero dimensions

/-- The record is what is stored for a window of a chunk, the one at `index` out of `total`, when
the provider gave `answer` for its text. -/
structure IsRecordOf (embedText : EmbedText) (dimensions : Nat) (chunk : Chunk) (window : String)
    (index total : Nat) (answer : Except EmbedError Vector) (record : Record) : Prop where
  id : record.id =
    chunk.file.path ++ ":" ++ chunk.kind ++ ":" ++ chunk.name ++ ":" ++
      Text.decimal chunk.startLine ++
      (if 1 < total then ":part_" ++ Text.decimal index else "")
  filePath : record.filePath = chunk.file.path
  fileName : record.fileName = chunk.file.name
  chunkType : record.chunkType = chunk.kind
  chunkName : record.chunkName = chunk.name
  code : record.code = window
  description : record.description =
    match embedText with
    | .description => some (embedText.render chunk window)
    | .rawCode => none
  startLine : record.startLine.toInt = min chunk.startLine (2 ^ 31 - 1)
  endLine : record.endLine.toInt = min chunk.endLine (2 ^ 31 - 1)
  totalLines : record.totalLines.toInt = min chunk.file.totalLines (2 ^ 31 - 1)
  fileSize : record.fileSize.toInt = min chunk.file.size (2 ^ 31 - 1)
  metadata : Metadata.ofText? record.metadata =
    some { nodeType := chunk.nodeType
           partIndex := UInt64.ofNat index
           totalParts := UInt64.ofNat total }
  embedding : record.embedding = vectorOr dimensions answer

theorem Part.isRecordOf_record (embedText : EmbedText) (dimensions : Nat) (part : Part)
    (answer : Except EmbedError Vector) :
    IsRecordOf embedText dimensions part.chunk part.code part.index part.total answer
      (part.record embedText (vectorOr dimensions answer)) where
  id := by
    show chunkId _ _ _ _ _ _ = _
    rw [chunkId]
    by_cases hmany : 1 < part.total
    · rw [if_pos hmany, if_pos hmany, ← String.append_assoc]
    · rw [if_neg hmany, if_neg hmany, String.append_empty]
  filePath := rfl
  fileName := rfl
  chunkType := rfl
  chunkName := rfl
  code := rfl
  description := by cases embedText <;> rfl
  startLine := Part.toInt_saturate _
  endLine := Part.toInt_saturate _
  totalLines := Part.toInt_saturate _
  fileSize := Part.toInt_saturate _
  metadata := Metadata.ofText?_toText part.metadata
  embedding := rfl

/-! ## Places -/

theorem Part.length_ofChunk (splitter : Splitter) (chunk : Chunk) :
    (ofChunk splitter chunk).length = (splitter.split chunk.code).length := by
  rw [ofChunk, List.length_map, List.length_zipIdx]

theorem Part.ofChunk_getElem? (splitter : Splitter) (chunk : Chunk) {index : Nat}
    (h : index < (splitter.split chunk.code).length) :
    (ofChunk splitter chunk)[index]? =
      some { chunk
             code := (splitter.split chunk.code)[index]
             index
             total := (splitter.split chunk.code).length } := by
  rw [ofChunk, List.getElem?_map, List.getElem?_zipIdx, List.getElem?_eq_getElem h, Nat.zero_add]
  rfl

/-- The number of windows of all chunks. -/
def windowCount (splitter : Splitter) (chunks : List Chunk) : Nat :=
  (chunks.map fun chunk => (splitter.split chunk.code).length).sum

namespace Indexer

variable {ε σ τ : Type}

theorem length_parts (indexer : Indexer ε σ τ) (chunks : List Chunk) :
    (indexer.parts chunks).length = windowCount indexer.splitter chunks := by
  rw [parts, List.length_flatMap, windowCount]
  exact congrArg List.sum (List.map_congr_left fun chunk _ => Part.length_ofChunk _ chunk)

/-- The windows of a chunk come after those of the chunks before it. -/
theorem parts_getElem? (indexer : Indexer ε σ τ) (before : List Chunk) (chunk : Chunk)
    (after : List Chunk) {index : Nat}
    (h : index < (indexer.splitter.split chunk.code).length) :
    (indexer.parts (before ++ chunk :: after))[windowCount indexer.splitter before + index]? =
      some { chunk
             code := (indexer.splitter.split chunk.code)[index]
             index
             total := (indexer.splitter.split chunk.code).length } := by
  have hbefore := indexer.length_parts before
  rw [parts] at hbefore
  rw [parts, List.flatMap_append, List.flatMap_cons, ← hbefore,
    List.getElem?_append_right (Nat.le_add_right _ _), Nat.add_sub_cancel_left,
    List.getElem?_append_left (by rwa [Part.length_ofChunk])]
  exact Part.ofChunk_getElem? indexer.splitter chunk h

end Indexer

end CodeSearch
