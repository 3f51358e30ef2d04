import CodeSearch.ChunkId
import CodeSearch.Embedding.Provider
import CodeSearch.Splitter
import CodeSearch.Store.ChunkStore

/-!
# Indexing chunks

Every chunk is split into parts, and every part is described, embedded and stored as a record of
its own. A part that cannot be embedded gets the zero vector, and one that cannot be stored is
left out.

- `Part`: a window of a chunk, with its place among the windows.
- `Part.record`: what is stored for a part, given its vector.
- `indexChunks`: stores the parts of a list of chunks, in order, and counts those that were stored.
-/

namespace CodeSearch

/-- A window of a chunk: its code, and which of how many it is, counted from 0. -/
structure Part where
  chunk : Chunk
  code : String
  index : Nat
  total : Nat
  deriving DecidableEq, Repr, Inhabited

namespace Part

/-- The parts of a chunk, one for each window of its code. -/
def ofChunk (splitter : Splitter) (chunk : Chunk) : List Part :=
  let windows := splitter.split chunk.code
  windows.zipIdx.map fun window =>
    { chunk, code := window.1, index := window.2, total := windows.length }

/-- The identifier of a part. -/
def id (part : Part) : String :=
  chunkId part.chunk.file.path part.chunk.kind part.chunk.name part.chunk.startLine part.index
    part.total

/-- What is stored beside the code of a part. -/
def metadata (part : Part) : Metadata :=
  { nodeType := part.chunk.nodeType
    partIndex := UInt64.ofNat part.index
    totalParts := UInt64.ofNat part.total }

/-- The text that is embedded for a part. -/
def text (policy : EmbedText) (part : Part) : String := policy.render part.chunk part.code

/-- A count that is stored in 32 bits: beyond the largest such number it is that number. -/
def saturate (n : Nat) : Int32 := Int32.ofInt (min n 0x7FFFFFFF : Nat)

/-- What is stored for a part with the given vector. -/
def record (policy : EmbedText) (part : Part) (embedding : Vector) : Record :=
  let chunk := part.chunk
  { id := part.id
    filePath := chunk.file.path
    fileName := chunk.file.name
    chunkType := chunk.kind
    chunkName := chunk.name
    code := part.code
    description := policy.storedDescription (part.text policy)
    startLine := saturate chunk.startLine
    endLine := saturate chunk.endLine
    totalLines := saturate chunk.file.totalLines
    fileSize := saturate chunk.file.size
    metadata := part.metadata.toText
    embedding }

end Part

/-- What takes part in indexing. -/
structure Indexer (ε σ τ : Type) where
  store : ChunkStore ε σ
  provider : Provider τ
  splitter : Splitter
  embedText : EmbedText

namespace Indexer

variable {ε σ τ : Type}

/-- How far indexing has come: the parts stored so far, the content of the store and the state of
the provider. -/
structure Progress (σ τ : Type) where
  stored : Nat := 0
  content : σ
  state : τ

/-- Embeds and stores one part. -/
def indexPart (indexer : Indexer ε σ τ) (progress : Progress σ τ) (part : Part) :
    Progress σ τ :=
  let (vector, state) :=
    indexer.provider.embedOrZero (part.text indexer.embedText) progress.state
  match indexer.store.append (part.record indexer.embedText vector) progress.content with
  | (.ok _, content) => { stored := progress.stored + 1, content, state }
  | (.error _, content) => { stored := progress.stored, content, state }

/-- The parts of a list of chunks, in order. -/
def parts (indexer : Indexer ε σ τ) (chunks : List Chunk) : List Part :=
  chunks.flatMap (Part.ofChunk indexer.splitter)

/-- Embeds and stores every part of the chunks. -/
def indexChunks (indexer : Indexer ε σ τ) (chunks : List Chunk) (content : σ) (state : τ) :
    Progress σ τ :=
  (indexer.parts chunks).foldl indexer.indexPart { content, state }

end Indexer

end CodeSearch
