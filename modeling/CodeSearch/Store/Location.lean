import CodeSearch.FileTree.FileSystem
import CodeSearch.Store.Error

/-!
# Places of databases

A path of a database differs from other paths in that `..` takes away the component before it,
whatever that is, that a trailing slash means nothing, and that it may not grow as long. A database
is changed with the help of two files beside its own: a log and a journal, whose names end in `-wal`
and `-journal`.

- `FileSystem.databasePlace?`: the place that a path of a database stands for.
- `FileSystem.clearWay`: the file system in which nothing is in the way of changes of a database.
- `FileSystem.makeDatabase`: the file system with a new database at a place.
- `FileSystem.readFault?`: what keeps a database from being read only.
-/

namespace CodeSearch

/-! ## Paths of databases -/

namespace FileTree

/-- A list of names leads through a regular file. -/
def isBlocked : List String → FileTree → Bool
  | [], _ => false
  | _ :: _, .file _ => true
  | _ :: _, .link _ => false
  | name :: names, .directory entries =>
    match entries.lookup name with
    | some child => isBlocked names child
    | none => false

end FileTree

namespace FileSystem

/-- The number of links that may be followed on the way to a database. -/
def maxDatabaseLinks : Nat := 201

/-- The number of bytes of a path that goes through the given names. -/
def pathSize (names : List String) : Nat :=
  names.foldr (fun name size => 1 + Text.Utf8.size name.toList + size) 0

/-- The largest number of bytes of the path of a database, which leaves room for a longer name. -/
def maxDatabasePath : Nat := 504

/-- The largest number of bytes of a path on the way to a database. -/
def maxDatabaseStep : Nat := 511

/-- Follows the components of a path of a database behind the names `here`, with `links` links left
to follow. -/
def followDatabase (root : FileTree) (links : Nat) (here : List String) :
    List String → Option (List String)
  | [] => some here
  | name :: rest =>
    if name = "" || name = "." then followDatabase root links here rest
    else if name = ".." then followDatabase root links here.dropLast rest
    else
      let next := here ++ [name]
      if !isFileName name || maxDatabaseStep < pathSize next || root.isBlocked next then none
      else
        match root.at? next with
        | some (.link target) =>
          match links with
          | 0 => none
          | links + 1 =>
            followDatabase root links (if isAbsolute target then [] else here)
              (Path.components target ++ rest)
        | _ => followDatabase root links next rest
termination_by components => (links, components.length)

/-- The place that a path of a database stands for. -/
def databasePlace? (files : FileSystem) (path : String) : Option (List String) := do
  let start := if isAbsolute path then [] else files.here
  let names ← followDatabase files.root maxDatabaseLinks start (Path.components path)
  if pathSize names ≤ maxDatabasePath then return names else none

/-! ## Beside a database -/

/-- The place beside another whose name has `ending` behind it. -/
def beside (names : List String) (ending : String) : List String :=
  names.dropLast ++ [names.getLast?.getD "" ++ ending]

/-- A place, or where the link at it leads, is taken by something else than an empty file. -/
def isTaken (files : FileSystem) (names : List String) : Bool :=
  match follow files.root maxLinks [] names with
  | .existing _ (.file (.bytes [])) => false
  | .existing _ _ => true
  | _ => false

/-- The file system without the file or the link at a place. -/
def removeFile (files : FileSystem) (names : List String) : FileSystem :=
  match files.root.at? names with
  | none | some (.directory _) => files
  | some _ => files.remove names

/-- Removes what stands in the place of the log. Once a database is written, a link may not lead
there. -/
def clearLog (files : FileSystem) (isNew : Bool) (names : List String) :
    FileSystem × Option DatabaseFault :=
  if !files.isTaken names then (files, none)
  else
    match files.root.at? names with
    | some (.directory _) => (files, some .logInTheWay)
    | some (.link _) =>
      if isNew then (files.removeFile names, none) else (files, some .noJournal)
    | _ => (files.removeFile names, none)

/-- Removes an empty file that stands in the place of the journal. -/
def clearJournal (files : FileSystem) (names : List String) : FileSystem × Option DatabaseFault :=
  match files.root.at? names with
  | some (.link _) | some (.directory _) => (files, some .noJournal)
  | _ => if names.all isFileName then (files.removeFile names, none) else (files, some .noJournal)

/-- The file system in which nothing is in the way of changes of a database, or what is. A journal
and a log that others left there are removed. -/
def clearWay (files : FileSystem) (isNew : Bool) (names : List String) :
    FileSystem × Option DatabaseFault :=
  let journal := beside names "-journal"
  let files := if files.isTaken journal then files.removeFile journal else files
  match files.clearLog isNew (beside names "-wal") with
  | (files, some fault) => (files, some fault)
  | (files, none) => files.clearJournal journal

/-- The file system with a new, empty database at a place, or what is in its way. -/
def makeDatabase (files : FileSystem) (names : List String) : FileSystem × Option DatabaseFault :=
  match files.clearWay true names with
  | (files, some fault) => (files, some fault)
  | (files, none) => (files.put names (.file (.index {}))).clearWay false names

/-- What keeps a database from being read and not changed: a journal that was left, or a link in the
place of the log. -/
def readFault? (files : FileSystem) (names : List String) : Option DatabaseFault :=
  let log := beside names "-wal"
  let isLink : FileTree → Bool
    | .link _ => true
    | _ => false
  if files.isTaken (beside names "-journal") then some .readOnly
  else if files.isTaken log && (files.root.at? log).any isLink then some .noJournal
  else none

end FileSystem

end CodeSearch
