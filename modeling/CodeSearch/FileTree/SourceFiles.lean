import CodeSearch.FileTree.FileSystem

/-!
# Source files of a directory

- `FileTree.files`: the paths of the regular files below a node. The entries of a directory come in
  the order of their names, and links are left out. A directory whose path is too long is not
  looked into.
- `FileSystem.sourceFiles`: the files below a root with one of the given extensions.
-/

namespace CodeSearch

namespace FileTree

mutual

/-- The paths of the regular files below the node at `path`. -/
def files (path : String) : FileTree → List String
  | .file _ => [path]
  | .link _ => []
  | .directory entries =>
    if FileSystem.isTooLong path then []
    else ((filesOf path entries).mergeSort fun a b => a.1 ≤ b.1).flatMap fun entry => entry.2

/-- The files below each entry of the directory at `path`. -/
def filesOf (path : String) : List (String × FileTree) → List (String × List String)
  | [] => []
  | (name, node) :: entries => (name, files (Path.child path name) node) :: filesOf path entries

end

end FileTree

/-- The file that a path names has one of the given extensions. -/
def Path.hasExtension (extensions : List String) (path : String) : Bool :=
  match Path.extension? path with
  | some extension => extensions.contains extension
  | none => false

/-- The path stands for standard input, below which there are no files. Components behind it that
say nothing do not matter. -/
def Path.isStandardInput (path : String) : Bool :=
  match components path with
  | first :: rest => first == "-" && rest.all fun part => part == "" || part == "."
  | [] => false

/-- The regular files with one of the given extensions below a root. The root may be a link, and it
may be a file. -/
def FileSystem.sourceFiles (system : FileSystem) (extensions : List String) (root : String) :
    List String :=
  if Path.isStandardInput root then []
  else
    match system.node? root with
    | some node => (node.files root).filter (Path.hasExtension extensions)
    | none => []

end CodeSearch
