import CodeSearch.Store.Handle
import CodeSearch.Store.Location
import CodeSearch.Store.Locator

/-!
# Open indexes

- `OpenIndex`: an open chunk table with its database, and the place of its file.
- `OpenIndex.save`: the file system in which the file holds the current content.
- `FileSystem.openIndex`: opens the index with a path, and makes its file if there is none. The file
  is there even if opening fails afterwards.
-/

namespace CodeSearch

/-- An open chunk table with its database, and the place of the file that keeps it. -/
structure OpenIndex where
  handle : Handle
  database : Database
  place : Option (List String)
  deriving Repr, Inhabited

namespace OpenIndex

/-- The file system in which the file of the index holds its current content. -/
def save (index : OpenIndex) (files : FileSystem) : FileSystem :=
  match index.place with
  | some names => files.put names (.file (.index index.database))
  | none => files

end OpenIndex

namespace FileSystem

/-- Opens an index to read it. -/
def openToRead (files : FileSystem) (isImmutable : Bool) (options : StoreOptions)
    (names : List String) (database : Database) : Except StoreError OpenIndex :=
  match if isImmutable then none else files.readFault? names with
  | some fault => .error (.database fault)
  | none =>
    (Handle.openReadOnly options database).map fun handle =>
      { handle, database, place := some names }

/-- Opens an index to read and to change it. -/
def openToWrite (files : FileSystem) (isNew : Bool) (options : StoreOptions)
    (names : List String) (database : Database) : FileSystem × Except StoreError OpenIndex :=
  match if isNew then files.makeDatabase names else files.clearWay false names with
  | (files, some fault) => (files, .error (.database fault))
  | (files, none) =>
    let (database, outcome) := Handle.openTable options database
    (files.put names (.file (.index database)),
     outcome.map fun handle => { handle, database, place := some names })

/-- Opens an index in a file that holds the given content. At most one byte counts as none. -/
def openFile (files : FileSystem) (path : IndexPath) (options : StoreOptions)
    (names : List String) (content : FileContent) : FileSystem × Except StoreError OpenIndex :=
  let files := files.put names (.file content)
  if !Handle.isTableName options.tableName then
    (files, .error (.invalidTableName options.tableName))
  else
    match content with
    | .index database =>
      if path.isReadOnly then (files, files.openToRead path.isImmutable options names database)
      else files.openToWrite false options names database
    | .bytes bytes =>
      if 1 < bytes.length then (files, .error (.database .notADatabase))
      else if path.isReadOnly then (files, .error (.database .readOnly))
      else files.openToWrite true options names {}

/-- Opens an index that is kept as long as it is open. -/
def openInMemory (isReadOnly : Bool) (options : StoreOptions) : Except StoreError OpenIndex :=
  if isReadOnly then
    (Handle.openReadOnly options {}).map fun handle => { handle, database := {}, place := none }
  else
    let (database, outcome) := Handle.openTable options {}
    outcome.map fun handle => { handle, database, place := none }

/-- Opens an index at a place. -/
def openPlace (files : FileSystem) (path : IndexPath) (cannotOpen : StoreError)
    (options : StoreOptions) (names : List String) : FileSystem × Except StoreError OpenIndex :=
  match files.root.at? names with
  | some (.file content) => files.openFile path options names content
  | some _ =>
    (files, .error (if path.access = .read then .database .unreadable else cannotOpen))
  | none =>
    let isFree := (files.root.at? names.dropLast).any FileTree.isDirectory
    if path.access = .create && isFree then files.openFile path options names (.bytes [])
    else (files, .error cannotOpen)

/-- Opens the index with the given path. -/
def openIndex (files : FileSystem) (path : String) (options : StoreOptions) :
    FileSystem × Except StoreError OpenIndex :=
  if path.toList.contains '\x00' then
    let before := path.toList.takeWhile (· != '\x00')
    (files, .error (.database (.badPath (Text.Utf8.size before))))
  else
    let cannotOpen : StoreError := .database (.cannotOpen path)
    match IndexPath.ofText path with
    | .error fault => (files, .error (.database fault))
    | .ok target =>
      match target.file with
      | none => (files, openInMemory target.isReadOnly options)
      | some name =>
        match files.databasePlace? name with
        | none => (files, .error cannotOpen)
        | some names =>
          if target.modelFile.all files.has then
            files.openPlace target cannotOpen options names
          else (files, .error (.database .noModel))

end FileSystem

end CodeSearch
