import CodeSearch.CommandLine.Run
import CodeSearch.Extract.SourceTree
import CodeSearch.Indexing
import CodeSearch.Main
import CodeSearch.Search
import CodeSearch.Store.Snapshot
import CodeSearch.Proofs.Splitting.Pieces
import CodeSearch.Proofs.Splitting.Counting
import CodeSearch.Proofs.Splitting.Windows
import CodeSearch.Proofs.Store.VectorTable
import CodeSearch.Proofs.Vector.Bytes
import CodeSearch.Proofs.Store.Tables
import CodeSearch.Proofs.Store.Opening
import CodeSearch.Proofs.Store.Contents
import CodeSearch.Proofs.Json.Literals
import CodeSearch.Proofs.Store.Session
import CodeSearch.Proofs.Json.RoundTrip
import CodeSearch.Proofs.Indexing.Attempts
import CodeSearch.Proofs.Indexing.Reindexing
import CodeSearch.Proofs.Store.Extension
import CodeSearch.Proofs.Store.Origins
import CodeSearch.Proofs.Store.Matching
import CodeSearch.Proofs.Store.Ledger
import CodeSearch.Proofs.Store.Numbers
import CodeSearch.Proofs.Store.Keywords
import CodeSearch.Proofs.Extract.LineChunks
import CodeSearch.Proofs.Extract.Units
import CodeSearch.Proofs.Search.Ranking
import CodeSearch.Proofs.Indexing.Filling
import CodeSearch.Proofs.Indexing.Collisions
import CodeSearch.Proofs.Store.Reopening
import CodeSearch.Proofs.Vector.Angle
import CodeSearch.Proofs.Store.Nearest
import CodeSearch.Proofs.Search.ZeroVectors
import CodeSearch.Proofs.Embedding.Dimensions
import CodeSearch.Proofs.Store.OpenIndex
import CodeSearch.Proofs.Indexing.Outcomes
import CodeSearch.Proofs.CommandLine.OpenApp
import CodeSearch.Proofs.Text.ByteOrder
import CodeSearch.Proofs.FileTree.Paths
import CodeSearch.Proofs.FileTree.Lookup
import CodeSearch.Proofs.FileTree.SourceFiles
import CodeSearch.Proofs.Extract.Directories
import CodeSearch.Proofs.FileTree.Removal
import CodeSearch.Proofs.Store.NearestRecords
import CodeSearch.Proofs.Search.Limits
import CodeSearch.Proofs.Splitting.Runs
import CodeSearch.Proofs.Splitting.Separators
import CodeSearch.Proofs.Splitting.Boundaries
import CodeSearch.Proofs.Extract.Blocks
import CodeSearch.Proofs.Extract.Shapes
import CodeSearch.Proofs.Extract.Declarations
import CodeSearch.Proofs.Extract.Passes
import CodeSearch.Proofs.Extract.Preorder
import CodeSearch.Proofs.Extract.OutlinePasses
import CodeSearch.Proofs.Extract.Heritage
import CodeSearch.Proofs.Text.Trimming
import CodeSearch.Proofs.Purpose.Scanning
import CodeSearch.Proofs.Purpose.Stability
import CodeSearch.Proofs.Purpose.OpenBlocks
import CodeSearch.Proofs.Embedding.Batches
import CodeSearch.Proofs.Text.Encoding
import CodeSearch.Proofs.Json.Fields
import CodeSearch.Proofs.Json.Records
import CodeSearch.Proofs.FileTree.Writing
import CodeSearch.Proofs.Config.Members
import CodeSearch.Proofs.Config.Saving
import CodeSearch.Proofs.Purpose.Descriptions
import CodeSearch.Proofs.Vector.Symmetry
import CodeSearch.Proofs.CommandLine.InputLines
import CodeSearch.Proofs.CommandLine.Dialogues
import CodeSearch.Proofs.Extract.Traversal
import CodeSearch.Proofs.Indexing.ChunkIds
import CodeSearch.Proofs.Embedding.LinearWords
import CodeSearch.Proofs.Embedding.Generator
import CodeSearch.Proofs.Number.Exact
import CodeSearch.Proofs.Number.Arithmetic
import CodeSearch.Proofs.Embedding.Elements
