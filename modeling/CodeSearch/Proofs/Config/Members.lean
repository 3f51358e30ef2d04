import CodeSearch.Config.File
import CodeSearch.Proofs.FileTree.Lookup
import CodeSearch.Proofs.Json.Fields
import CodeSearch.Proofs.Json.RoundTrip
import CodeSearch.Proofs.Text.Encoding

/-!
# The members of a configuration

A configuration that is an object is given by its known members, each of which stands for one
setting and for nothing else. A setting without a member has its default. The order of the members
does not matter and unknown ones are skipped, also in the object under `embedding`. If a known
member has a wrong type or occurs twice, or if a key is no text, then all settings are the default
ones.

- `Json.Fits`: the keys are texts, and known members are well typed and occur at most once.
- `EmbeddingConfig.IsReadFrom`, `Config.IsReadFrom`: the settings that members stand for.
- `EmbeddingConfig.ofJson?_object_eq_some_iff`, `Config.ofJson?_object_eq_some_iff`: what is read.
- `Config.Alike`: objects that differ in the order of members and in unknown ones.
- `Config.load_members`: the configuration in a file.
-/

namespace CodeSearch

open Json (IsField IsRecord SameKnown)

/-! ## Typed members -/

namespace Json

variable {α : Type} {read : Json → Option α} {members : List (Option String × Json)}
  {name : String}

/-- The document can be read as a value of the type. -/
def IsTyped (read : Json → Option α) (document : Json) : Prop := (read document).isSome = true

/-- The object can be read as a record, and what stands under the known keys has the types that go
with them. -/
structure Fits (types : List (String × (Json → Prop))) (members : List (Option String × Json)) :
    Prop extends IsRecord (types.map Prod.fst) members where
  typed : ∀ type ∈ types, ∀ document, (some type.1, document) ∈ members → type.2 document

theorem IsField.isTyped {fallback value : α} (h : IsField read fallback members name value)
    (document : Json) (hmember : (some name, document) ∈ members) : IsTyped read document := by
  rw [IsTyped, h.present document hmember]
  rfl

end Json

/-! ## The provider -/

namespace EmbeddingConfig

variable {members others : List (Option String × Json)} {config : EmbeddingConfig}

/-- The types of the known members. -/
def types : List (String × (Json → Prop)) :=
  [("provider", Json.IsTyped (Json.asChoice? ProviderKind.choices)),
   ("model", Json.IsTyped Json.asText?),
   ("dimensions", Json.IsTyped Json.asUInt64?),
   ("api_base", Json.IsTyped Json.asText?),
   ("api_key", Json.IsTyped Json.asOptionalText?),
   ("timeout_secs", Json.IsTyped Json.asUInt64?)]

/-- Each setting has the value of its own member, or its default. -/
structure IsReadFrom (members : List (Option String × Json)) (config : EmbeddingConfig) :
    Prop where
  provider : IsField (Json.asChoice? ProviderKind.choices) ({} : EmbeddingConfig).provider
    members "provider" config.provider
  model : IsField Json.asText? ({} : EmbeddingConfig).model members "model" config.model
  dimensions : IsField Json.asUInt64? ({} : EmbeddingConfig).dimensions members "dimensions"
    config.dimensions
  apiBase : IsField Json.asText? ({} : EmbeddingConfig).apiBase members "api_base" config.apiBase
  apiKey : IsField Json.asOptionalText? ({} : EmbeddingConfig).apiKey members "api_key"
    config.apiKey
  timeoutSeconds : IsField Json.asUInt64? ({} : EmbeddingConfig).timeoutSeconds members
    "timeout_secs" config.timeoutSeconds

theorem ofJson?_object_eq_some_iff :
    ofJson? (.object members) = some config ↔
      IsRecord fieldNames members ∧ IsReadFrom members config := by
  constructor
  · intro h
    obtain ⟨field, hfields, h⟩ := Option.bind_eq_some_iff.mp h
    obtain ⟨hrecord, rfl⟩ := Json.fields?_object_eq_some_iff.mp hfields
    obtain ⟨provider, hprovider, h⟩ := Option.bind_eq_some_iff.mp h
    obtain ⟨model, hmodel, h⟩ := Option.bind_eq_some_iff.mp h
    obtain ⟨dimensions, hdimensions, h⟩ := Option.bind_eq_some_iff.mp h
    obtain ⟨apiBase, hapiBase, h⟩ := Option.bind_eq_some_iff.mp h
    obtain ⟨apiKey, hapiKey, h⟩ := Option.bind_eq_some_iff.mp h
    obtain ⟨timeoutSeconds, htimeout, h⟩ := Option.bind_eq_some_iff.mp h
    cases h
    exact ⟨hrecord,
      { provider := (hrecord.field_iff (by decide)).mp hprovider
        model := (hrecord.field_iff (by decide)).mp hmodel
        dimensions := (hrecord.field_iff (by decide)).mp hdimensions
        apiBase := (hrecord.field_iff (by decide)).mp hapiBase
        apiKey := (hrecord.field_iff (by decide)).mp hapiKey
        timeoutSeconds := (hrecord.field_iff (by decide)).mp htimeout }⟩
  · rintro ⟨hrecord, hread⟩
    simp only [ofJson?, Json.fields?_of_isRecord hrecord, Option.bind_eq_bind, Option.bind_some,
      (hrecord.field_iff (by decide)).mpr hread.provider,
      (hrecord.field_iff (by decide)).mpr hread.model,
      (hrecord.field_iff (by decide)).mpr hread.dimensions,
      (hrecord.field_iff (by decide)).mpr hread.apiBase,
      (hrecord.field_iff (by decide)).mpr hread.apiKey,
      (hrecord.field_iff (by decide)).mpr hread.timeoutSeconds]
    rfl

/-- An object is read if its keys are texts and its known members are well typed and occur at most
once. -/
theorem exists_ofJson?_object_iff :
    (∃ config, ofJson? (.object members) = some config) ↔ Json.Fits types members := by
  simp only [ofJson?_object_eq_some_iff]
  constructor
  · rintro ⟨config, hrecord, hread⟩
    refine ⟨hrecord, ?_⟩
    simp only [types, List.forall_mem_cons]
    exact ⟨hread.provider.isTyped, hread.model.isTyped, hread.dimensions.isTyped,
      hread.apiBase.isTyped, hread.apiKey.isTyped, hread.timeoutSeconds.isTyped,
      fun _ h => absurd h List.not_mem_nil⟩
  · intro h
    have hrecord : IsRecord fieldNames members := h.toIsRecord
    have htyped := h.typed
    simp only [types, List.forall_mem_cons] at htyped
    obtain ⟨hprovider, hmodel, hdimensions, hapiBase, hapiKey, htimeout, -⟩ := htyped
    obtain ⟨provider, hprovider⟩ := hrecord.exists_isField (by decide) hprovider _
    obtain ⟨model, hmodel⟩ := hrecord.exists_isField (by decide) hmodel _
    obtain ⟨dimensions, hdimensions⟩ := hrecord.exists_isField (by decide) hdimensions _
    obtain ⟨apiBase, hapiBase⟩ := hrecord.exists_isField (by decide) hapiBase _
    obtain ⟨apiKey, hapiKey⟩ := hrecord.exists_isField (by decide) hapiKey _
    obtain ⟨timeoutSeconds, htimeout⟩ := hrecord.exists_isField (by decide) htimeout _
    exact ⟨{ provider, model, dimensions, apiBase, apiKey, timeoutSeconds }, hrecord,
      ⟨hprovider, hmodel, hdimensions, hapiBase, hapiKey, htimeout⟩⟩

theorem IsReadFrom.of_sameKnown (h : IsReadFrom members config)
    (hsame : SameKnown fieldNames members others) : IsReadFrom others config where
  provider := h.provider.of_mem_iff (hsame.mem_iff (by decide))
  model := h.model.of_mem_iff (hsame.mem_iff (by decide))
  dimensions := h.dimensions.of_mem_iff (hsame.mem_iff (by decide))
  apiBase := h.apiBase.of_mem_iff (hsame.mem_iff (by decide))
  apiKey := h.apiKey.of_mem_iff (hsame.mem_iff (by decide))
  timeoutSeconds := h.timeoutSeconds.of_mem_iff (hsame.mem_iff (by decide))

/-- The order of members and unknown members do not matter. -/
theorem ofJson?_object_congr (h : SameKnown fieldNames members others) :
    ofJson? (.object members) = ofJson? (.object others) := by
  refine Option.ext fun config => ?_
  rw [ofJson?_object_eq_some_iff, ofJson?_object_eq_some_iff, h.isRecord_iff]
  exact and_congr_right fun _ => ⟨fun hread => hread.of_sameKnown h,
    fun hread => hread.of_sameKnown h.symm⟩

/-- The types of what can stand under `embedding`: an object whose members fit, or an array that
can be read by position. -/
def IsTypedIn : Json → Prop
  | .object members => Json.Fits types members
  | document => Json.IsTyped ofJson? document

theorem isTyped_iff (document : Json) : Json.IsTyped ofJson? document ↔ IsTypedIn document := by
  cases document with
  | object members =>
    rw [Json.IsTyped, Option.isSome_iff_exists]
    exact exists_ofJson?_object_iff
  | _ => exact Iff.rfl

end EmbeddingConfig

/-! ## The configuration -/

namespace Config

variable {members others : List (Option String × Json)} {config : Config}

/-- The types of the known members. -/
def types : List (String × (Json → Prop)) :=
  [("db_path", Json.IsTyped Json.asText?),
   ("table_name", Json.IsTyped Json.asText?),
   ("source_dir", Json.IsTyped Json.asText?),
   ("extensions", Json.IsTyped (Json.asList? Json.asText?)),
   ("chunk_size", Json.IsTyped Json.asUInt64?),
   ("chunk_overlap", Json.IsTyped Json.asUInt64?),
   ("search_limit", Json.IsTyped Json.asUInt64?),
   ("search_threshold", Json.IsTyped Json.asSingle?),
   ("extractor", Json.IsTyped (Json.asChoice? Strategy.choices)),
   ("embed_text", Json.IsTyped (Json.asChoice? EmbedText.choices)),
   ("write_policy", Json.IsTyped (Json.asChoice? WritePolicy.choices)),
   ("embedding", EmbeddingConfig.IsTypedIn)]

/-- Each setting has the value of its own member, or its default. -/
structure IsReadFrom (members : List (Option String × Json)) (config : Config) : Prop where
  databasePath : IsField Json.asText? ({} : Config).databasePath members "db_path"
    config.databasePath
  tableName : IsField Json.asText? ({} : Config).tableName members "table_name" config.tableName
  sourceDirectory : IsField Json.asText? ({} : Config).sourceDirectory members "source_dir"
    config.sourceDirectory
  extensions : IsField (Json.asList? Json.asText?) ({} : Config).extensions members "extensions"
    config.extensions
  chunkSize : IsField Json.asUInt64? ({} : Config).chunkSize members "chunk_size" config.chunkSize
  chunkOverlap : IsField Json.asUInt64? ({} : Config).chunkOverlap members "chunk_overlap"
    config.chunkOverlap
  searchLimit : IsField Json.asUInt64? ({} : Config).searchLimit members "search_limit"
    config.searchLimit
  searchThreshold : IsField Json.asSingle? ({} : Config).searchThreshold members
    "search_threshold" config.searchThreshold
  extractor : IsField (Json.asChoice? Strategy.choices) ({} : Config).extractor members
    "extractor" config.extractor
  embedText : IsField (Json.asChoice? EmbedText.choices) ({} : Config).embedText members
    "embed_text" config.embedText
  writePolicy : IsField (Json.asChoice? WritePolicy.choices) ({} : Config).writePolicy members
    "write_policy" config.writePolicy
  embedding : IsField EmbeddingConfig.ofJson? ({} : Config).embedding members "embedding"
    config.embedding

theorem ofJson?_object_eq_some_iff :
    ofJson? (.object members) = some config ↔
      IsRecord fieldNames members ∧ IsReadFrom members config := by
  constructor
  · intro h
    obtain ⟨field, hfields, h⟩ := Option.bind_eq_some_iff.mp h
    obtain ⟨hrecord, rfl⟩ := Json.fields?_object_eq_some_iff.mp hfields
    obtain ⟨databasePath, hdatabasePath, h⟩ := Option.bind_eq_some_iff.mp h
    obtain ⟨tableName, htableName, h⟩ := Option.bind_eq_some_iff.mp h
    obtain ⟨sourceDirectory, hsourceDirectory, h⟩ := Option.bind_eq_some_iff.mp h
    obtain ⟨extensions, hextensions, h⟩ := Option.bind_eq_some_iff.mp h
    obtain ⟨chunkSize, hchunkSize, h⟩ := Option.bind_eq_some_iff.mp h
    obtain ⟨chunkOverlap, hchunkOverlap, h⟩ := Option.bind_eq_some_iff.mp h
    obtain ⟨searchLimit, hsearchLimit, h⟩ := Option.bind_eq_some_iff.mp h
    obtain ⟨searchThreshold, hsearchThreshold, h⟩ := Option.bind_eq_some_iff.mp h
    obtain ⟨extractor, hextractor, h⟩ := Option.bind_eq_some_iff.mp h
    obtain ⟨embedText, hembedText, h⟩ := Option.bind_eq_some_iff.mp h
    obtain ⟨writePolicy, hwritePolicy, h⟩ := Option.bind_eq_some_iff.mp h
    obtain ⟨embedding, hembedding, h⟩ := Option.bind_eq_some_iff.mp h
    cases h
    exact ⟨hrecord,
      { databasePath := (hrecord.field_iff (by decide)).mp hdatabasePath
        tableName := (hrecord.field_iff (by decide)).mp htableName
        sourceDirectory := (hrecord.field_iff (by decide)).mp hsourceDirectory
        extensions := (hrecord.field_iff (by decide)).mp hextensions
        chunkSize := (hrecord.field_iff (by decide)).mp hchunkSize
        chunkOverlap := (hrecord.field_iff (by decide)).mp hchunkOverlap
        searchLimit := (hrecord.field_iff (by decide)).mp hsearchLimit
        searchThreshold := (hrecord.field_iff (by decide)).mp hsearchThreshold
        extractor := (hrecord.field_iff (by decide)).mp hextractor
        embedText := (hrecord.field_iff (by decide)).mp hembedText
        writePolicy := (hrecord.field_iff (by decide)).mp hwritePolicy
        embedding := (hrecord.field_iff (by decide)).mp hembedding }⟩
  · rintro ⟨hrecord, hread⟩
    simp only [ofJson?, Json.fields?_of_isRecord hrecord, Option.bind_eq_bind, Option.bind_some,
      (hrecord.field_iff (by decide)).mpr hread.databasePath,
      (hrecord.field_iff (by decide)).mpr hread.tableName,
      (hrecord.field_iff (by decide)).mpr hread.sourceDirectory,
      (hrecord.field_iff (by decide)).mpr hread.extensions,
      (hrecord.field_iff (by decide)).mpr hread.chunkSize,
      (hrecord.field_iff (by decide)).mpr hread.chunkOverlap,
      (hrecord.field_iff (by decide)).mpr hread.searchLimit,
      (hrecord.field_iff (by decide)).mpr hread.searchThreshold,
      (hrecord.field_iff (by decide)).mpr hread.extractor,
      (hrecord.field_iff (by decide)).mpr hread.embedText,
      (hrecord.field_iff (by decide)).mpr hread.writePolicy,
      (hrecord.field_iff (by decide)).mpr hread.embedding]
    rfl

/-- An object is read if its keys are texts and its known members are well typed and occur at most
once. -/
theorem exists_ofJson?_object_iff :
    (∃ config, ofJson? (.object members) = some config) ↔ Json.Fits types members := by
  simp only [ofJson?_object_eq_some_iff]
  constructor
  · rintro ⟨config, hrecord, hread⟩
    refine ⟨hrecord, ?_⟩
    simp only [types, List.forall_mem_cons]
    exact ⟨hread.databasePath.isTyped, hread.tableName.isTyped, hread.sourceDirectory.isTyped,
      hread.extensions.isTyped, hread.chunkSize.isTyped, hread.chunkOverlap.isTyped,
      hread.searchLimit.isTyped, hread.searchThreshold.isTyped, hread.extractor.isTyped,
      hread.embedText.isTyped, hread.writePolicy.isTyped,
      fun document hmember => (EmbeddingConfig.isTyped_iff document).mp
        (hread.embedding.isTyped document hmember),
      fun _ h => absurd h List.not_mem_nil⟩
  · intro h
    have hrecord : IsRecord fieldNames members := h.toIsRecord
    have htyped := h.typed
    simp only [types, List.forall_mem_cons, ← EmbeddingConfig.isTyped_iff] at htyped
    obtain ⟨hdatabasePath, htableName, hsourceDirectory, hextensions, hchunkSize, hchunkOverlap,
      hsearchLimit, hsearchThreshold, hextractor, hembedText, hwritePolicy, hembedding, -⟩ := htyped
    obtain ⟨databasePath, hdatabasePath⟩ := hrecord.exists_isField (by decide) hdatabasePath _
    obtain ⟨tableName, htableName⟩ := hrecord.exists_isField (by decide) htableName _
    obtain ⟨sourceDirectory, hsourceDirectory⟩ :=
      hrecord.exists_isField (by decide) hsourceDirectory _
    obtain ⟨extensions, hextensions⟩ := hrecord.exists_isField (by decide) hextensions _
    obtain ⟨chunkSize, hchunkSize⟩ := hrecord.exists_isField (by decide) hchunkSize _
    obtain ⟨chunkOverlap, hchunkOverlap⟩ := hrecord.exists_isField (by decide) hchunkOverlap _
    obtain ⟨searchLimit, hsearchLimit⟩ := hrecord.exists_isField (by decide) hsearchLimit _
    obtain ⟨searchThreshold, hsearchThreshold⟩ :=
      hrecord.exists_isField (by decide) hsearchThreshold _
    obtain ⟨extractor, hextractor⟩ := hrecord.exists_isField (by decide) hextractor _
    obtain ⟨embedText, hembedText⟩ := hrecord.exists_isField (by decide) hembedText _
    obtain ⟨writePolicy, hwritePolicy⟩ := hrecord.exists_isField (by decide) hwritePolicy _
    obtain ⟨embedding, hembedding⟩ := hrecord.exists_isField (by decide) hembedding _
    exact ⟨{ databasePath, tableName, sourceDirectory, extensions, chunkSize, chunkOverlap,
             searchLimit, searchThreshold, extractor, embedText, writePolicy, embedding }, hrecord,
      ⟨hdatabasePath, htableName, hsourceDirectory, hextensions, hchunkSize, hchunkOverlap,
        hsearchLimit, hsearchThreshold, hextractor, hembedText, hwritePolicy, hembedding⟩⟩

/-- The settings of the provider are read from the object under `embedding`. -/
theorem IsReadFrom.inside {inner : List (Option String × Json)} (h : IsReadFrom members config)
    (hinner : (some "embedding", .object inner) ∈ members) :
    EmbeddingConfig.IsReadFrom inner config.embedding :=
  (EmbeddingConfig.ofJson?_object_eq_some_iff.mp (h.embedding.present _ hinner)).2

/-! ## What does not matter -/

/-- The two objects differ in the order of members and in unknown ones, and so may the objects that
they have under `embedding`. -/
inductive Alike : List (Option String × Json) → List (Option String × Json) → Prop where
  | known {members others : List (Option String × Json)}
    (same : SameKnown fieldNames members others) : Alike members others
  | inside {before after inner other : List (Option String × Json)}
    (same : SameKnown EmbeddingConfig.fieldNames inner other) :
    Alike (before ++ (some "embedding", .object inner) :: after)
      (before ++ (some "embedding", .object other) :: after)
  | trans {first second third : List (Option String × Json)} (left : Alike first second)
    (right : Alike second third) : Alike first third

/-- Each setting is read from the members under its own key. -/
theorem IsReadFrom.imp (h : IsReadFrom members config)
    (hfield : ∀ {α : Type} {read : Json → Option α} {fallback value : α}, ∀ name ∈ fieldNames,
      name ≠ "embedding" → IsField read fallback members name value →
      IsField read fallback others name value)
    (hembedding : ∀ {fallback value : EmbeddingConfig},
      IsField EmbeddingConfig.ofJson? fallback members "embedding" value →
      IsField EmbeddingConfig.ofJson? fallback others "embedding" value) :
    IsReadFrom others config where
  databasePath := hfield _ (by decide) (by decide) h.databasePath
  tableName := hfield _ (by decide) (by decide) h.tableName
  sourceDirectory := hfield _ (by decide) (by decide) h.sourceDirectory
  extensions := hfield _ (by decide) (by decide) h.extensions
  chunkSize := hfield _ (by decide) (by decide) h.chunkSize
  chunkOverlap := hfield _ (by decide) (by decide) h.chunkOverlap
  searchLimit := hfield _ (by decide) (by decide) h.searchLimit
  searchThreshold := hfield _ (by decide) (by decide) h.searchThreshold
  extractor := hfield _ (by decide) (by decide) h.extractor
  embedText := hfield _ (by decide) (by decide) h.embedText
  writePolicy := hfield _ (by decide) (by decide) h.writePolicy
  embedding := hembedding h.embedding

theorem IsReadFrom.of_sameKnown (h : IsReadFrom members config)
    (hsame : SameKnown fieldNames members others) : IsReadFrom others config :=
  h.imp (fun _ hname _ hfield => hfield.of_mem_iff (hsame.mem_iff hname))
    fun hfield => hfield.of_mem_iff (hsame.mem_iff (by decide))

theorem IsReadFrom.replace {before after inner other : List (Option String × Json)}
    (h : IsReadFrom (before ++ (some "embedding", .object inner) :: after) config)
    (hsame : SameKnown EmbeddingConfig.fieldNames inner other) :
    IsReadFrom (before ++ (some "embedding", .object other) :: after) config :=
  h.imp (fun _ _ hname hfield => hfield.replace fun hkey => absurd hkey.symm hname)
    fun hfield => hfield.replace fun _ => (EmbeddingConfig.ofJson?_object_congr hsame).symm

theorem Alike.ofJson?_eq (h : Alike members others) :
    ofJson? (.object members) = ofJson? (.object others) := by
  induction h with
  | known same =>
    refine Option.ext fun config => ?_
    rw [ofJson?_object_eq_some_iff, ofJson?_object_eq_some_iff, same.isRecord_iff]
    exact and_congr_right fun _ => ⟨fun hread => hread.of_sameKnown same,
      fun hread => hread.of_sameKnown same.symm⟩
  | inside same =>
    refine Option.ext fun config => ?_
    rw [ofJson?_object_eq_some_iff, ofJson?_object_eq_some_iff, Json.isRecord_replace_iff]
    exact and_congr_right fun _ => ⟨fun hread => hread.replace same,
      fun hread => hread.replace same.symm⟩
  | trans _ _ left right => exact left.trans right

/-! ## Files -/

variable {text : String}

theorem ofText_of_object (h : Json.ofText? text = some (.object members)) :
    ofText text = ((ofJson? (.object members)).map normalize).getD {} := by
  rw [ofText, ofText?, h, Option.bind_some]

/-- A file that holds a text is read. -/
theorem load_of_readText? {files : FileSystem} {path : String}
    (h : files.readText? (if path = "" then defaultPath else path) = some text) :
    load path files = (files, .ok (ofText text)) := by
  obtain ⟨node, hnode, hfile⟩ : ∃ node,
      files.node? (if path = "" then defaultPath else path) = some node ∧
        node.isDirectory = false := by
    rw [FileSystem.readText?, FileSystem.read?] at h
    split at h
    · next hnode => exact ⟨_, hnode, rfl⟩
    · cases h
  simp only [load, hnode, hfile, Bool.false_eq_true, if_false, h]

/-- A file that holds an object is read as the settings that its known members stand for, without
the dots in front of extensions, if all keys are texts and the known members are well typed and
occur at most once, also those under `embedding`. All other objects, and texts that are no
documents, are read as the default configuration. Objects that differ in the order of members and
in unknown ones are read alike. -/
theorem load_members {files : FileSystem} {path text : String}
    (htext : files.readText? (if path = "" then defaultPath else path) = some text) :
    load path files = (files, .ok (ofText text)) ∧
    (∀ members, Json.ofText? text = some (.object members) →
      (Json.Fits types members →
        ∃ config, IsReadFrom members config ∧
          (∀ inner, (some "embedding", .object inner) ∈ members →
            EmbeddingConfig.IsReadFrom inner config.embedding) ∧
          ofText text = { config with extensions := config.extensions.map withoutDots }) ∧
      (¬ Json.Fits types members → ofText text = {}) ∧
      ∀ other others, Json.ofText? other = some (.object others) → Alike members others →
        ofText other = ofText text) ∧
    (Json.ofText? text = none → ofText text = {}) := by
  refine ⟨load_of_readText? htext, fun members hmembers => ⟨?fits, ?default, ?alike⟩, ?none⟩
  case fits =>
    intro hfits
    obtain ⟨config, hconfig⟩ := exists_ofJson?_object_iff.mpr hfits
    have hread := (ofJson?_object_eq_some_iff.mp hconfig).2
    refine ⟨config, hread, fun inner hinner => hread.inside hinner, ?_⟩
    rw [ofText_of_object hmembers, hconfig]
    rfl
  case default =>
    intro hfits
    have hnone : ofJson? (.object members) = none := by
      rw [Option.eq_none_iff_forall_ne_some]
      exact fun config hconfig => hfits (exists_ofJson?_object_iff.mp ⟨config, hconfig⟩)
    rw [ofText_of_object hmembers, hnone]
    rfl
  case alike =>
    intro other others hothers halike
    rw [ofText_of_object hmembers, ofText_of_object hothers, halike.ofJson?_eq]
  case none =>
    intro hnone
    rw [ofText, ofText?, hnone]
    rfl

/-- The text of the only file there is. -/
theorem readText?_only (text : String) :
    FileSystem.readText?
      { root := .directory [("c.json", .file (.bytes (Text.Utf8.encode text.toList)))] } "c.json" =
      some text := by
  rw [FileSystem.readText?_of_resolve (FileSystem.resolve_name (by decide) (by decide) rfl),
    FileContent.text?, Text.Utf8.text?_encode, Option.map_some, String.ofList_toList]

/-- Known members between unknown ones. -/
theorem load_members_of_unknown :
    let members : List (Option String × Json) :=
      [(some "x", .array [.null]),
       (some "embedding", .object [(some "dimensions", .ofNat 3), (some "y", .object [])]),
       (some "extensions", .texts [".ts"]), (some "x", .ofNat 1),
       (some "chunk_size", .ofNat 500)]
    let text := (Json.object members).compact
    let files : FileSystem :=
      { root := .directory [("c.json", .file (.bytes (Text.Utf8.encode text.toList)))] }
    files.readText? "c.json" = some text ∧
      ∃ config, load "c.json" files = (files, .ok config) ∧ config.chunkSize = 500 ∧
        config.chunkOverlap = 200 ∧ config.extensions = ["ts"] ∧
        config.embedding.dimensions = 3 ∧ config.embedding.timeoutSeconds = 30 := by
  intro members text files
  have htext : files.readText? "c.json" = some text := readText?_only text
  have hfits : Json.Fits types members := exists_ofJson?_object_iff.mp
    (Option.isSome_iff_exists.mp (by decide +kernel))
  obtain ⟨hload, hobject, -⟩ := @load_members files "c.json" text htext
  obtain ⟨hread, -, -⟩ := hobject members (Json.ofText?_compact _)
  obtain ⟨config, hfields, hinside, hconfig⟩ := hread hfits
  have hembedding := hinside _ (.tail _ (.head _))
  have hsize : some 500 = some config.chunkSize :=
    hfields.chunkSize.present (.ofNat 500) (by simp [members])
  have hoverlap : config.chunkOverlap = 200 := hfields.chunkOverlap.absent (by simp [members])
  have hextensions : some [".ts"] = some config.extensions :=
    hfields.extensions.present (.texts [".ts"]) (by simp [members])
  have hdimensions : some 3 = some config.embedding.dimensions :=
    hembedding.dimensions.present (.ofNat 3) (by simp)
  have htimeout : config.embedding.timeoutSeconds = 30 :=
    hembedding.timeoutSeconds.absent (by simp)
  refine ⟨htext, _, hload, ?_⟩
  rw [hconfig]
  refine ⟨(Option.some.inj hsize).symm, hoverlap, ?_, (Option.some.inj hdimensions).symm, htimeout⟩
  have hdots : [".ts"].map withoutDots = ["ts"] := by decide
  rw [← Option.some.inj hextensions]
  exact hdots

/-- When the key of an unknown member is no text, a known member next to it has no effect. -/
theorem load_of_brokenKey :
    let members : List (Option String × Json) :=
      [(none, .ofNat 0), (some "chunk_size", .ofNat 500)]
    let text := "\x7b\"\\ud800\":0,\"chunk_size\":500\x7d"
    let files : FileSystem :=
      { root := .directory [("c.json", .file (.bytes (Text.Utf8.encode text.toList)))] }
    files.readText? "c.json" = some text ∧ Json.ofText? text = some (.object members) ∧
      (∀ name ∈ fieldNames, Json.Once members name) ∧
      (∀ type ∈ types, ∀ document, (some type.1, document) ∈ members → type.2 document) ∧
      load "c.json" files = (files, .ok {}) ∧ ¬ IsReadFrom members {} := by
  intro members text files
  have htext : files.readText? "c.json" = some text := readText?_only text
  have hcompact : (Json.object members).compact = text := by decide +kernel
  have hmembers : Json.ofText? text = some (.object members) :=
    hcompact ▸ Json.ofText?_compact (.object members)
  have hdefault : ofJson? (.object members) = none := by decide +kernel
  refine ⟨htext, hmembers, ?once, ?typed, ?load, ?other⟩
  case once => simp [fieldNames, Json.Once, members]
  case typed =>
    have hsize : Json.IsTyped Json.asUInt64? (.ofNat 500) := rfl
    simp [types, members, hsize]
  case load =>
    have hread : ofText text = {} := by
      rw [ofText_of_object hmembers, hdefault]
      rfl
    exact hread ▸ load_of_readText? htext
  case other =>
    intro hread
    have hsize : some 500 = some ({} : Config).chunkSize :=
      hread.chunkSize.present (.ofNat 500) (by simp [members])
    exact absurd hsize (by decide)

end Config

end CodeSearch
