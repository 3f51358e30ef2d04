import CodeSearch.Proofs.Store.Opening
import CodeSearch.Store.OpenIndex

/-!
# What an open index was opened with

An index can be opened in memory or from a file, to read only or to write as well. However it is
opened, its handle says what was asked for.

- `Handle.IsFor`: the handle has the table name, the dimensions and the policy that were asked for.
- `FileSystem.isFor_of_openIndex`: so has the handle of an index that was opened.
- `FileSystem.openIndex_memory`: the path of an index without a file.
-/

namespace CodeSearch

/-- What the handle says is what was asked for. -/
structure Handle.IsFor (handle : Handle) (options : StoreOptions) : Prop where
  tableName : handle.tableName = options.tableName
  dimensions : handle.dimensions = options.dimensions
  writePolicy : handle.writePolicy = options.writePolicy

namespace Handle

variable {options : StoreOptions} {database : Database} {handle : Handle}

theorem isFor_of_openTable (h : (openTable options database).2 = .ok handle) :
    handle.IsFor options := by
  obtain ⟨-, rfl, -⟩ := Database.openTable_ok (Prod.ext rfl h)
  exact ⟨rfl, rfl, rfl⟩

theorem isFor_of_openReadOnly (h : openReadOnly options database = .ok handle) :
    handle.IsFor options := by
  unfold openReadOnly at h
  dsimp only at h
  split at h
  · cases hopen : (openTable options database).2 with
    | error error =>
      rw [hopen] at h
      cases h
    | ok opened =>
      rw [hopen] at h
      cases h
      obtain ⟨hname, hdimensions, hpolicy⟩ := isFor_of_openTable hopen
      exact ⟨hname, hdimensions, hpolicy⟩
  · cases h

end Handle

namespace FileSystem

variable {files : FileSystem} {options : StoreOptions} {index : OpenIndex}

/-- The handle is for the options, if there is one. -/
theorem isFor_of_map {outcome : Except StoreError Handle} {database : Database}
    {place : Option (List String)} (hfor : ∀ handle, outcome = .ok handle → handle.IsFor options)
    (h : (outcome.map fun handle => ({ handle, database, place } : OpenIndex)) = .ok index) :
    index.handle.IsFor options := by
  cases outcome with
  | error error => cases h
  | ok handle =>
    cases h
    exact hfor handle rfl

variable {names : List String} {database : Database} {path : IndexPath}

theorem isFor_of_openToRead {isImmutable : Bool}
    (h : files.openToRead isImmutable options names database = .ok index) :
    index.handle.IsFor options := by
  unfold openToRead at h
  split at h
  · cases h
  · exact isFor_of_map (fun _ => Handle.isFor_of_openReadOnly) h

theorem isFor_of_openToWrite {isNew : Bool}
    (h : (files.openToWrite isNew options names database).2 = .ok index) :
    index.handle.IsFor options := by
  unfold openToWrite at h
  split at h
  · cases h
  · exact isFor_of_map (fun _ => Handle.isFor_of_openTable) h

theorem isFor_of_openFile {content : FileContent}
    (h : (files.openFile path options names content).2 = .ok index) :
    index.handle.IsFor options := by
  unfold openFile at h
  dsimp only at h
  split at h
  · cases h
  · split at h
    · split at h
      · exact isFor_of_openToRead h
      · exact isFor_of_openToWrite h
    · split at h
      · cases h
      · split at h
        · cases h
        · exact isFor_of_openToWrite h

theorem isFor_of_openInMemory {isReadOnly : Bool}
    (h : openInMemory isReadOnly options = .ok index) : index.handle.IsFor options := by
  unfold openInMemory at h
  dsimp only at h
  split at h
  · exact isFor_of_map (fun _ => Handle.isFor_of_openReadOnly) h
  · exact isFor_of_map (fun _ => Handle.isFor_of_openTable) h

theorem isFor_of_openPlace {cannotOpen : StoreError}
    (h : (files.openPlace path cannotOpen options names).2 = .ok index) :
    index.handle.IsFor options := by
  unfold openPlace at h
  split at h
  · exact isFor_of_openFile h
  · cases h
  · dsimp only at h
    split at h
    · exact isFor_of_openFile h
    · cases h

/-- However an index is opened, its handle says what was asked for. -/
theorem isFor_of_openIndex {path : String}
    (h : (files.openIndex path options).2 = .ok index) : index.handle.IsFor options := by
  unfold openIndex at h
  split at h
  · cases h
  · dsimp only at h
    split at h
    · cases h
    · split at h
      · exact isFor_of_openInMemory h
      · split at h
        · cases h
        · split at h
          · exact isFor_of_openPlace h
          · cases h

/-- An index with this path has no file. -/
theorem openIndex_memory (files : FileSystem) (options : StoreOptions) :
    files.openIndex ":memory:" options = (files, openInMemory false options) := by
  have hpath : IndexPath.ofText ":memory:" = .ok { file := none } := rfl
  unfold openIndex
  rw [if_neg (by decide), hpath]
  rfl

end FileSystem

end CodeSearch
