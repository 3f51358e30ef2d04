import CodeSearch.Embedding.Service
import CodeSearch.Extract.Strategy
import CodeSearch.Splitter
import CodeSearch.Store.Handle

/-!
# Configuration

- `Config`: everything that can be configured, with its defaults.
- `Config.problem?`: the first thing that is wrong with a configuration.
- `Config.apiKey?`: the key for the embedding service.
- `Config.storeOptions`, `Config.splitter`: what a store is opened with, and how chunks are split.
-/

namespace CodeSearch

/-- Who makes the vectors. -/
inductive ProviderKind where
  /-- A service that is reached over the network. -/
  | service
  | mock
  deriving DecidableEq, Repr, Inhabited

namespace ProviderKind

/-- The name of a kind of provider. -/
def name : ProviderKind → String
  | .service => "openai"
  | .mock => "mock"

/-- Every kind of provider with its name. -/
def choices : List (String × ProviderKind) :=
  [(name .service, .service), (name .mock, .mock)]

end ProviderKind

/-- The configuration of the provider. -/
structure EmbeddingConfig where
  provider : ProviderKind := .service
  model : String := Service.defaultModel
  dimensions : UInt64 := UInt64.ofNat Service.defaultDimensions
  apiBase : String := Service.defaultBase
  apiKey : Option String := none
  timeoutSeconds : UInt64 := 30
  deriving DecidableEq, Repr, Inhabited

/-- A similarity of 0.7, which a hit reaches unless another threshold is given. -/
def defaultThreshold : Single := Single.ofRatio false 7 10

/-- A configuration. -/
structure Config where
  databasePath : String := "./code_database.db"
  tableName : String := "code_chunks"
  /-- The directory that is indexed unless another one is named. -/
  sourceDirectory : String := "src"
  /-- The extensions of source files, without the dot. -/
  extensions : List String := ["ts", "tsx", "js", "jsx"]
  chunkSize : UInt64 := 1000
  chunkOverlap : UInt64 := 200
  searchLimit : UInt64 := 10
  searchThreshold : Single := defaultThreshold
  extractor : Strategy := .auto
  embedText : EmbedText := .description
  writePolicy : WritePolicy := .append
  embedding : EmbeddingConfig := {}
  deriving DecidableEq, Repr, Inhabited

/-- What can be wrong with a configuration. -/
inductive ConfigProblem where
  | chunkSize
  | chunkOverlap
  | searchLimit
  | searchThreshold
  | extensions
  | dimensions
  | tableName
  deriving DecidableEq, Repr

/-- The text of a problem. -/
def ConfigProblem.message : ConfigProblem → String
  | .chunkSize => "chunk_size must be positive"
  | .chunkOverlap => "chunk_overlap must be smaller than chunk_size"
  | .searchLimit => "search_limit must be positive"
  | .searchThreshold => "search_threshold must be within [-1, 1]"
  | .extensions => "at least one file extension must be specified"
  | .dimensions => "embedding.dimensions must be positive"
  | .tableName => "table_name must not be empty"

namespace Config

/-- The number lies between -1 and 1. -/
def isCosine (x : Single) : Bool := (Single.ofInt (-1)).le x && x.le (Single.ofInt 1)

/-- The first thing that is wrong with a configuration. -/
def problem? (config : Config) : Option ConfigProblem :=
  if config.chunkSize = 0 then some .chunkSize
  else if config.chunkSize ≤ config.chunkOverlap then some .chunkOverlap
  else if config.searchLimit = 0 then some .searchLimit
  else if !isCosine config.searchThreshold then some .searchThreshold
  else if config.extensions.isEmpty then some .extensions
  else if config.embedding.dimensions = 0 then some .dimensions
  else if config.tableName = "" then some .tableName
  else none

/-- A key that is not blank. -/
def nonBlank (key : Option String) : Option String :=
  key.filter fun text => !Text.isBlankText text.toList

/-- The key for the embedding service: the first that is not blank of the given one, the configured
one, and the one from the environment. -/
def apiKey? (config : Config) (given environment : Option String) : Option String :=
  ((nonBlank given).or (nonBlank config.embedding.apiKey)).or (nonBlank environment)

/-- What a store is opened with. -/
def storeOptions (config : Config) : StoreOptions :=
  { tableName := config.tableName
    dimensions := config.embedding.dimensions.toNat
    embedText := config.embedText
    writePolicy := config.writePolicy }

/-- The splitter for chunks. -/
def splitter (config : Config) : Splitter :=
  Splitter.ofBounds config.chunkSize.toNat config.chunkOverlap.toNat

/-- A configuration without problems has the bounds of its splitter as they are. -/
theorem splitter_bounds (config : Config) (h : config.problem? = none) :
    config.splitter.size = config.chunkSize.toNat ∧
      config.splitter.overlap = config.chunkOverlap.toNat := by
  have hsize : config.chunkSize ≠ 0 := by
    intro h0
    simp [problem?, h0] at h
  have hoverlap : ¬ config.chunkSize ≤ config.chunkOverlap := by
    intro h0
    simp [problem?, hsize, h0] at h
  rw [UInt64.le_iff_toNat_le] at hoverlap
  simp only [splitter, Splitter.ofBounds]
  omega

end Config

end CodeSearch
