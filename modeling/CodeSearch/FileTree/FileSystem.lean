import CodeSearch.FileTree.Basic
import CodeSearch.Path
import CodeSearch.Text.Utf8

/-!
# Files by path

A file system is a tree of files and the directory in which a program runs. A path leads to a
place in the tree: it starts at the root when it begins with `/`, in the working directory
otherwise, and each component is looked up where the ones before it lead.

- `FileSystem.resolve`: where a path leads. At most 40 links are followed on the way, and the path
  has at most 4095 bytes.
- `FileSystem.node?`, `FileSystem.read?`, `FileSystem.readText?`: what is there.
- `FileSystem.write?`: the file system after a file was written.
-/

namespace CodeSearch

/-- A tree of files and the working directory. -/
structure FileSystem where
  root : FileTree
  here : List String := []
  deriving Repr, Inhabited

/-- Where a path leads. -/
inductive Place where
  /-- To a node that is not a link, at the given names from the root. -/
  | existing (names : List String) (node : FileTree)
  /-- To a name that is free in an existing directory. -/
  | free (names : List String)
  | nowhere
  deriving Repr, Inhabited

namespace FileSystem

/-- The number of links that may be followed on the way to a file. -/
def maxLinks : Nat := 40

/-- A file can have this name: it has at most 255 bytes and no U+0000. -/
def isFileName (name : String) : Bool :=
  Text.Utf8.size name.toList ≤ 255 && !name.toList.contains '\x00'

/-- The path starts at the root. -/
def isAbsolute (path : String) : Bool := path.toList.head? = some '/'

/-- Follows components from the directory `here`, with `links` links left to follow. -/
def follow (root : FileTree) (links : Nat) (here : List String) : List String → Place
  | [] =>
    match root.at? here with
    | some node => .existing here node
    | none => .nowhere
  | name :: rest =>
    match root.at? here with
    | some (.directory entries) =>
      if name = "" || name = "." then follow root links here rest
      else if name = ".." then follow root links here.dropLast rest
      else
        match entries.lookup name with
        | none => if rest.isEmpty && isFileName name then .free (here ++ [name]) else .nowhere
        | some (.link target) =>
          match links with
          | 0 => .nowhere
          | links + 1 =>
            follow root links (if isAbsolute target then [] else here)
              (Path.components target ++ rest)
        | some _ => follow root links (here ++ [name]) rest
    | _ => .nowhere
termination_by components => (links, components.length)

/-- The largest number of bytes of a path that leads somewhere. -/
def maxPathSize : Nat := 4095

/-- The path leads nowhere, whatever files there are. -/
def isTooLong (path : String) : Bool := maxPathSize < Text.Utf8.size path.toList

/-- Where a path leads. The empty path leads nowhere. -/
def resolve (files : FileSystem) (path : String) : Place :=
  if path = "" || isTooLong path then .nowhere
  else
    follow files.root maxLinks (if isAbsolute path then [] else files.here) (Path.components path)

/-- The node that a path leads to. -/
def node? (files : FileSystem) (path : String) : Option FileTree :=
  match files.resolve path with
  | .existing _ node => some node
  | _ => none

/-- The path leads to something. -/
def has (files : FileSystem) (path : String) : Bool := (files.node? path).isSome

/-- The bytes of a file. An index is not read as bytes. -/
def read? (files : FileSystem) (path : String) : Option (List UInt8) :=
  match files.node? path with
  | some (.file (.bytes bytes)) => some bytes
  | _ => none

/-- The text of a file, if its bytes are one. -/
def readText? (files : FileSystem) (path : String) : Option String :=
  ((files.read? path).bind Text.Utf8.text?).map String.ofList

/-- The file system with a node at a place. -/
def put (files : FileSystem) (names : List String) (node : FileTree) : FileSystem :=
  { files with root := files.root.put node names }

/-- The file system without the node at a place. -/
def remove (files : FileSystem) (names : List String) : FileSystem :=
  { files with root := files.root.remove names }

/-- Writes a file, which need not exist but whose directory must. -/
def write? (files : FileSystem) (path : String) (bytes : List UInt8) : Option FileSystem :=
  match files.resolve path with
  | .existing names (.file _) => some (files.put names (.file (.bytes bytes)))
  | .free names => some (files.put names (.file (.bytes bytes)))
  | _ => none

end FileSystem

end CodeSearch
