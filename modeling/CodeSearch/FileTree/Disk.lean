import CodeSearch.FileTree.FileSystem
import CodeSearch.Store.Snapshot

/-!
# Files as bytes on a disk

- `FileContent.ofBytes`, `FileContent.toBytes`: what a file holds, and its bytes.
- `Path.names`: the names from the root that a path stands for when no component is a link.
-/

namespace CodeSearch

namespace FileContent

/-- What a file with the given bytes holds: an index if they are a snapshot. -/
def ofBytes (bytes : List UInt8) : FileContent :=
  match Database.ofBytes? bytes with
  | some database => .index database
  | none => .bytes bytes

/-- The bytes of a file. -/
def toBytes : FileContent → List UInt8
  | .bytes data => data
  | .index database => database.toBytes

end FileContent

namespace Path

/-- The names after one more component. -/
def step (names : List String) (component : String) : List String :=
  if component = "" || component = "." then names
  else if component = ".." then names.dropLast
  else names ++ [component]

/-- The names from the root that a path stands for in the working directory `here`. -/
def names (here : List String) (path : String) : List String :=
  (components path).foldl step (if FileSystem.isAbsolute path then [] else here)

end Path

end CodeSearch
