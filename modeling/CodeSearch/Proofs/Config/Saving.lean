import CodeSearch.Proofs.Config.Members
import CodeSearch.Proofs.FileTree.Writing
import Mathlib.Data.List.Basic

/-!
# Saving a configuration and loading it

What is written for a configuration is read back, setting by setting. Only the dots in front of
extensions are lost, and a configuration that was loaded has none. So a valid configuration is the
same after it was saved and loaded, and what was loaded is the same when this is done again.

- `Single.IsReadBack`: the shortest literal of a number is read as the number.
- `EmbeddingConfig.ofJson?_toJson`, `Config.ofJson?_toJson`: the documents.
- `Config.IsDotless`, `Config.isDotless_of_load`: extensions without dots.
- `Config.load_save`: a configuration is saved and loaded.
-/

namespace CodeSearch

/-- The literal with the fewest digits is read as the number. -/
def Single.IsReadBack (x : Single) : Prop :=
  (Json.numberOfDigits x.isNegative x.shortestDigits.1 x.shortestDigits.2).toSingle? = some x

/-! ## Documents -/

theorem Json.asSingle?_ofSingle {x : Single} (hnumber : x.isNaN = false)
    (hfinite : x.isInfinite = false) (h : x.IsReadBack) : asSingle? (ofSingle x) = some x := by
  rw [ofSingle, hnumber, hfinite]
  exact h

theorem ProviderKind.asChoice?_name (kind : ProviderKind) :
    Json.asChoice? choices (.text kind.name) = some kind := by
  cases kind <;> decide

theorem Strategy.asChoice?_name (strategy : Strategy) :
    Json.asChoice? choices (.text strategy.name) = some strategy := by
  cases strategy <;> decide

theorem EmbedText.asChoice?_name (choice : EmbedText) :
    Json.asChoice? choices (.text choice.name) = some choice := by
  cases choice <;> decide

theorem WritePolicy.asChoice?_name (policy : WritePolicy) :
    Json.asChoice? choices (.text policy.name) = some policy := by
  cases policy <;> decide

namespace EmbeddingConfig

/-- The configuration of the provider is read back, with its key or without one. -/
theorem ofJson?_toJson (config : EmbeddingConfig) : ofJson? config.toJson = some config := by
  obtain ⟨provider, model, dimensions, apiBase, apiKey, timeoutSeconds⟩ := config
  refine ofJson?_object_eq_some_iff.mpr ?_
  cases apiKey with
  | none =>
    have hdistinct : ["provider", "model", "dimensions", "api_base", "timeout_secs"].Nodup := by
      decide
    exact ⟨Json.isRecord_membersOf hdistinct,
      { provider := Json.isField_membersOf hdistinct _ (by simp) provider.asChoice?_name
        model := Json.isField_membersOf hdistinct (.text model) (by simp) rfl
        dimensions := Json.isField_membersOf hdistinct _ (by simp) (Json.asUInt64?_ofNat _)
        apiBase := Json.isField_membersOf hdistinct (.text apiBase) (by simp) rfl
        apiKey := Json.isField_membersOf_of_not_mem (by simp)
        timeoutSeconds := Json.isField_membersOf hdistinct _ (by simp) (Json.asUInt64?_ofNat _) }⟩
  | some key =>
    have hdistinct : fieldNames.Nodup := by decide
    exact ⟨Json.isRecord_membersOf hdistinct,
      { provider := Json.isField_membersOf hdistinct _ (by simp) provider.asChoice?_name
        model := Json.isField_membersOf hdistinct (.text model) (by simp) rfl
        dimensions := Json.isField_membersOf hdistinct _ (by simp) (Json.asUInt64?_ofNat _)
        apiBase := Json.isField_membersOf hdistinct (.text apiBase) (by simp) rfl
        apiKey := Json.isField_membersOf hdistinct (.text key) (by simp) rfl
        timeoutSeconds := Json.isField_membersOf hdistinct _ (by simp) (Json.asUInt64?_ofNat _) }⟩

end EmbeddingConfig

namespace Config

variable {config : Config}

/-- A configuration whose threshold is read back is read back. -/
theorem ofJson?_toJson (hthreshold : Json.asSingle? (.ofSingle config.searchThreshold) =
    some config.searchThreshold) : ofJson? config.toJson = some config := by
  have hdistinct : fieldNames.Nodup := by decide
  refine ofJson?_object_eq_some_iff.mpr ⟨Json.isRecord_membersOf hdistinct, ?_⟩
  exact
    { databasePath := Json.isField_membersOf hdistinct (.text config.databasePath) (by simp) rfl
      tableName := Json.isField_membersOf hdistinct (.text config.tableName) (by simp) rfl
      sourceDirectory :=
        Json.isField_membersOf hdistinct (.text config.sourceDirectory) (by simp) rfl
      extensions := Json.isField_membersOf hdistinct _ (by simp) (Json.asList?_texts _)
      chunkSize := Json.isField_membersOf hdistinct _ (by simp) (Json.asUInt64?_ofNat _)
      chunkOverlap := Json.isField_membersOf hdistinct _ (by simp) (Json.asUInt64?_ofNat _)
      searchLimit := Json.isField_membersOf hdistinct _ (by simp) (Json.asUInt64?_ofNat _)
      searchThreshold := Json.isField_membersOf hdistinct _ (by simp) hthreshold
      extractor := Json.isField_membersOf hdistinct _ (by simp) config.extractor.asChoice?_name
      embedText := Json.isField_membersOf hdistinct _ (by simp) config.embedText.asChoice?_name
      writePolicy := Json.isField_membersOf hdistinct _ (by simp) config.writePolicy.asChoice?_name
      embedding := Json.isField_membersOf hdistinct _ (by simp) config.embedding.ofJson?_toJson }

/-- The text of a configuration file is read as the configuration. -/
theorem ofText_toText (hthreshold : Json.asSingle? (.ofSingle config.searchThreshold) =
    some config.searchThreshold) : ofText config.toText = config.normalize := by
  rw [ofText, ofText?, toText, Json.ofText?_pretty, Option.bind_some, ofJson?_toJson hthreshold]
  rfl

/-! ## Valid thresholds -/

/-- A number between -1 and 1 is finite. -/
theorem isFinite_of_isCosine {x : Single} (h : isCosine x = true) :
    x.isNaN = false ∧ x.isInfinite = false := by
  obtain ⟨hlow, hhigh⟩ := (Bool.and_eq_true_iff).mp h
  obtain ⟨-, hnumber, hlow⟩ := Single.le_iff.mp hlow
  obtain ⟨-, -, hhigh⟩ := Single.le_iff.mp hhigh
  have hone : (Single.ofInt 1).position = 0x3F800000 := by decide +kernel
  have hminusOne : (Single.ofInt (-1)).position = -0x3F800000 := by decide +kernel
  rw [hone] at hhigh
  rw [hminusOne] at hlow
  refine ⟨hnumber, ?_⟩
  rw [Single.isInfinite, beq_eq_false_iff_ne]
  intro hinfinite
  have hposition : x.position = 0x7F800000 ∨ x.position = -0x7F800000 := by
    rw [Single.position, hinfinite]
    split
    · exact Or.inr rfl
    · exact Or.inl rfl
  omega

theorem isCosine_of_problem? (h : config.problem? = none) :
    isCosine config.searchThreshold = true := by
  unfold problem? at h
  split_ifs at h with hsize hoverlap hlimit hthreshold
  simpa using hthreshold

/-! ## Dots -/

/-- No extension starts with a dot. -/
def IsDotless (config : Config) : Prop :=
  ∀ extension ∈ config.extensions, extension.toList.head? ≠ some '.'

theorem withoutDots_eq_self {extension : String} (h : extension.toList.head? ≠ some '.') :
    withoutDots extension = extension := by
  have hkept : Text.trimStartWhere (· == '.') extension.toList = extension.toList := by
    cases htext : extension.toList with
    | nil => rfl
    | cons c text =>
      have hdot : (c == '.') = false := by simpa [htext] using h
      rw [Text.trimStartWhere_cons, hdot, if_neg Bool.false_ne_true]
  rw [withoutDots, hkept, String.ofList_toList]

theorem head?_withoutDots (extension : String) :
    (withoutDots extension).toList.head? ≠ some '.' := by
  intro hdot
  rw [withoutDots, String.toList_ofList, Text.trimStartWhere] at hdot
  have hkept := List.head?_dropWhile_not (· == '.') extension.toList
  rw [hdot] at hkept
  exact absurd hkept (by decide)

theorem normalize_eq_self (h : config.IsDotless) : config.normalize = config := by
  have hkept : config.extensions.map withoutDots = config.extensions.map id :=
    List.map_congr_left fun extension hextension => withoutDots_eq_self (h extension hextension)
  rw [normalize, hkept, List.map_id]

theorem isDotless_normalize (config : Config) : config.normalize.IsDotless := by
  intro extension hextension
  obtain ⟨written, -, rfl⟩ := List.mem_map.mp hextension
  exact head?_withoutDots written

theorem isDotless_default : ({} : Config).IsDotless := by
  simp [IsDotless]

theorem isDotless_ofText (text : String) : (ofText text).IsDotless := by
  rw [ofText, ofText?]
  cases (Json.ofText? text).bind ofJson? with
  | none => exact isDotless_default
  | some config => exact isDotless_normalize config

/-- A configuration that was loaded has no extension with a dot. -/
theorem isDotless_of_load {path : String} {files loaded : FileSystem}
    (h : load path files = (loaded, .ok config)) : config.IsDotless := by
  simp only [load] at h
  generalize (if path = "" then defaultPath else path) = found at h
  split at h
  · cases h
    exact isDotless_default
  · split at h
    · cases h
    · split at h
      · cases h
        exact isDotless_ofText _
      · cases h

/-! ## Saving -/

theorem load_of_save {path : String} {files saved : FileSystem}
    (h : config.save path files = .ok saved) :
    load path saved = (saved, .ok (ofText config.toText)) := by
  rw [save] at h
  split at h
  · next hwrite =>
    cases h
    obtain ⟨place, hresolve⟩ := FileSystem.resolve_of_write? hwrite
    have hpath : path ≠ "" := (FileSystem.resolve_eq_existing_iff.mp hresolve).1
    refine load_of_readText? ?_
    rw [if_neg hpath, FileSystem.readText?_of_resolve hresolve, FileContent.text?,
      Text.Utf8.text?_encode, Option.map_some, String.ofList_toList]
  · cases h

theorem exists_save {path : String} {files : FileSystem} (h : files.IsWritable path) :
    ∃ saved, config.save path files = .ok saved := by
  obtain ⟨saved, hwrite⟩ := (FileSystem.exists_write?_iff _).mpr h
  exact ⟨saved, by rw [save, hwrite]⟩

/-- A valid configuration whose extensions have no dots is the same after it was saved and loaded
again, wherever a file can be written, if its threshold is read back. So is every valid one that
was loaded from anywhere. -/
theorem load_save (hvalid : config.problem? = none)
    (hthreshold : config.searchThreshold.IsReadBack) :
    (config.IsDotless → ∀ path files, files.IsWritable path →
      ∃ saved, config.save path files = .ok saved ∧ load path saved = (saved, .ok config)) ∧
    ∀ source before loaded, load source before = (loaded, .ok config) →
      ∀ path files, files.IsWritable path →
        ∃ saved, config.save path files = .ok saved ∧ load path saved = (saved, .ok config) := by
  obtain ⟨hnumber, hfinite⟩ := isFinite_of_isCosine (isCosine_of_problem? hvalid)
  have hread := ofText_toText (Json.asSingle?_ofSingle hnumber hfinite hthreshold)
  have hsaved : config.IsDotless → ∀ path files, files.IsWritable path →
      ∃ saved, config.save path files = .ok saved ∧ load path saved = (saved, .ok config) := by
    intro hdotless path files hwritable
    obtain ⟨saved, hsave⟩ := exists_save hwritable
    refine ⟨saved, hsave, ?_⟩
    rw [load_of_save hsave, hread, normalize_eq_self hdotless]
  exact ⟨hsaved, fun source before loaded hload => hsaved (isDotless_of_load hload)⟩

/-- A configuration with a key is saved, and then what was loaded is saved to another file. -/
theorem load_save_twice :
    let config : Config :=
      { extensions := ["ts", "vue"], chunkSize := 500
        embedding := { provider := .mock, apiKey := some "ключ \"1\"" } }
    let files : FileSystem := { root := .empty }
    config.problem? = none ∧ config.searchThreshold.IsReadBack ∧ config.IsDotless ∧
      ∃ saved, config.save "c.json" files = .ok saved ∧
        load "c.json" saved = (saved, .ok config) ∧
        ∃ again, config.save "d.json" files = .ok again ∧
          load "d.json" again = (again, .ok config) := by
  intro config files
  have hvalid : config.problem? = none := by decide +kernel
  have hthreshold : config.searchThreshold.IsReadBack := by
    show Json.Number.toSingle? _ = _
    decide +kernel
  have hdotless : config.IsDotless := by simp [IsDotless, config]
  have hfirst : files.IsWritable "c.json" :=
    FileSystem.isWritable_of_absent rfl (by decide) (by decide) rfl
  have hsecond : files.IsWritable "d.json" :=
    FileSystem.isWritable_of_absent rfl (by decide) (by decide) rfl
  obtain ⟨hsaved, hagain⟩ := load_save hvalid hthreshold
  obtain ⟨saved, hsave, hload⟩ := hsaved hdotless "c.json" files hfirst
  exact ⟨hvalid, hthreshold, hdotless, saved, hsave, hload,
    hagain "c.json" saved saved hload "d.json" files hsecond⟩

end Config

end CodeSearch
