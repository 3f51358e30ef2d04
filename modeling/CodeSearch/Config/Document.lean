import CodeSearch.Config.Basic
import CodeSearch.Json.Fields
import CodeSearch.Json.Printer
import CodeSearch.Json.Reader
import CodeSearch.Json.SingleLiteral

/-!
# Configurations as JSON

Every member may be missing and then has its default. A document in which a member has a value of
another type, or occurs twice, is no configuration.

- `Config.toJson`, `Config.ofJson?`: a configuration as a document, and back.
- `Config.toText`: the text of a configuration file.
- `Config.ofText`: the configuration in a text, the default one if there is none in it. Extensions
  may be written with a dot.
-/

namespace CodeSearch

namespace EmbeddingConfig

/-- The names of the members, in the order in which they are written. -/
def fieldNames : List String :=
  ["provider", "model", "dimensions", "api_base", "api_key", "timeout_secs"]

/-- The configuration as a document. A missing key is left out. -/
def toJson (config : EmbeddingConfig) : Json :=
  .record
    ([("provider", .text config.provider.name),
      ("model", .text config.model),
      ("dimensions", .ofNat config.dimensions.toNat),
      ("api_base", .text config.apiBase)] ++
     (match config.apiKey with
      | some key => [("api_key", .text key)]
      | none => []) ++
     [("timeout_secs", .ofNat config.timeoutSeconds.toNat)])

/-- Reads the configuration of the provider from a document. -/
def ofJson? (document : Json) : Option EmbeddingConfig := do
  let field ← document.fields? fieldNames
  let other : EmbeddingConfig := {}
  return {
    provider :=
      ← Json.withDefault other.provider (Json.asChoice? ProviderKind.choices) (field "provider")
    model := ← Json.withDefault other.model Json.asText? (field "model")
    dimensions := ← Json.withDefault other.dimensions Json.asUInt64? (field "dimensions")
    apiBase := ← Json.withDefault other.apiBase Json.asText? (field "api_base")
    apiKey := ← Json.withDefault other.apiKey Json.asOptionalText? (field "api_key")
    timeoutSeconds :=
      ← Json.withDefault other.timeoutSeconds Json.asUInt64? (field "timeout_secs") }

end EmbeddingConfig

namespace Config

/-- The names of the members, in the order in which they are written. -/
def fieldNames : List String :=
  ["db_path", "table_name", "source_dir", "extensions", "chunk_size", "chunk_overlap",
   "search_limit", "search_threshold", "extractor", "embed_text", "write_policy", "embedding"]

/-- The configuration as a document. -/
def toJson (config : Config) : Json :=
  .record
    [("db_path", .text config.databasePath),
     ("table_name", .text config.tableName),
     ("source_dir", .text config.sourceDirectory),
     ("extensions", .texts config.extensions),
     ("chunk_size", .ofNat config.chunkSize.toNat),
     ("chunk_overlap", .ofNat config.chunkOverlap.toNat),
     ("search_limit", .ofNat config.searchLimit.toNat),
     ("search_threshold", .ofSingle config.searchThreshold),
     ("extractor", .text config.extractor.name),
     ("embed_text", .text config.embedText.name),
     ("write_policy", .text config.writePolicy.name),
     ("embedding", config.embedding.toJson)]

/-- Reads a configuration from a document. -/
def ofJson? (document : Json) : Option Config := do
  let field ← document.fields? fieldNames
  let other : Config := {}
  return {
    databasePath := ← Json.withDefault other.databasePath Json.asText? (field "db_path")
    tableName := ← Json.withDefault other.tableName Json.asText? (field "table_name")
    sourceDirectory := ← Json.withDefault other.sourceDirectory Json.asText? (field "source_dir")
    extensions :=
      ← Json.withDefault other.extensions (Json.asList? Json.asText?) (field "extensions")
    chunkSize := ← Json.withDefault other.chunkSize Json.asUInt64? (field "chunk_size")
    chunkOverlap := ← Json.withDefault other.chunkOverlap Json.asUInt64? (field "chunk_overlap")
    searchLimit := ← Json.withDefault other.searchLimit Json.asUInt64? (field "search_limit")
    searchThreshold :=
      ← Json.withDefault other.searchThreshold Json.asSingle? (field "search_threshold")
    extractor :=
      ← Json.withDefault other.extractor (Json.asChoice? Strategy.choices) (field "extractor")
    embedText :=
      ← Json.withDefault other.embedText (Json.asChoice? EmbedText.choices) (field "embed_text")
    writePolicy :=
      ← Json.withDefault other.writePolicy (Json.asChoice? WritePolicy.choices)
          (field "write_policy")
    embedding := ← Json.withDefault other.embedding EmbeddingConfig.ofJson? (field "embedding") }

/-- The text of a configuration file. -/
def toText (config : Config) : String := config.toJson.pretty

/-- An extension without the dots in front of it. -/
def withoutDots (extension : String) : String :=
  String.ofList (Text.trimStartWhere (· == '.') extension.toList)

/-- The configuration with extensions that start with no dot. -/
def normalize (config : Config) : Config :=
  { config with extensions := config.extensions.map withoutDots }

/-- The configuration that a text holds, if it holds one. -/
def ofText? (text : String) : Option Config :=
  ((Json.ofText? text).bind ofJson?).map normalize

/-- The configuration in a text, the default one if there is none. -/
def ofText (text : String) : Config := (ofText? text).getD {}

end Config

end CodeSearch
