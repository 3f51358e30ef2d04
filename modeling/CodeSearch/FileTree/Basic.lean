import CodeSearch.Store.Database

/-!
# Trees of files

The files that a program sees form a tree of directories, regular files and symbolic links. A
regular file holds bytes; a file that keeps an index holds a database.

- `FileTree.child?`, `FileTree.at?`: the node under a name, and under a list of names.
- `FileTree.put`: the tree with another node at a place.
- `FileTree.remove`: the tree without the node at a place.
-/

namespace CodeSearch

/-- What a regular file holds. -/
inductive FileContent where
  | bytes (bytes : List UInt8)
  | index (database : Database)
  deriving DecidableEq, Repr, Inhabited

/-- A tree of files. The names of the entries of a directory are different. -/
inductive FileTree where
  | file (content : FileContent)
  | link (target : String)
  | directory (entries : List (String × FileTree))
  deriving Repr, Inhabited

namespace FileTree

/-- A directory without entries. -/
def empty : FileTree := .directory []

/-- The entries of a directory; other nodes have none. -/
def entries : FileTree → List (String × FileTree)
  | .directory entries => entries
  | _ => []

def isDirectory : FileTree → Bool
  | .directory _ => true
  | _ => false

/-- The entry of a directory with the given name. -/
def child? (tree : FileTree) (name : String) : Option FileTree := tree.entries.lookup name

/-- The node that a list of names leads to. Links are not followed. -/
def at? (tree : FileTree) : List String → Option FileTree
  | [] => some tree
  | name :: names => (tree.child? name).bind fun child => child.at? names

/-- Replaces the entry with the given name, or adds it behind the others. -/
def setEntry (name : String) (node : FileTree) : List (String × FileTree) → List (String × FileTree)
  | [] => [(name, node)]
  | entry :: entries =>
    if entry.1 = name then (name, node) :: entries else entry :: setEntry name node entries

/-- The tree with another node at a place. Directories on the way are made where they are
missing. -/
def put (tree : FileTree) (node : FileTree) : List String → FileTree
  | [] => node
  | name :: names =>
    .directory (setEntry name (((tree.child? name).getD empty).put node names) tree.entries)

/-- The tree without the node at a place. -/
def remove (tree : FileTree) : List String → FileTree
  | [] => empty
  | [name] => .directory (tree.entries.filter fun entry => entry.1 != name)
  | name :: names =>
    match tree.child? name with
    | some child => .directory (setEntry name (child.remove names) tree.entries)
    | none => tree

/-! ## Laws -/

theorem lookup_setEntry_self (name : String) (node : FileTree)
    (entries : List (String × FileTree)) :
    (setEntry name node entries).lookup name = some node := by
  induction entries with
  | nil => simp [setEntry]
  | cons entry entries ih =>
    obtain ⟨key, value⟩ := entry
    simp only [setEntry]
    split
    · simp
    · next h =>
      have : (name == key) = false := by simpa using fun e : name = key => h e.symm
      simp [List.lookup_cons, this, ih]

/-- What was put at a place is found there. -/
theorem at?_put_self (tree node : FileTree) (names : List String) :
    (tree.put node names).at? names = some node := by
  induction names generalizing tree with
  | nil => rfl
  | cons name names ih =>
    simp [put, at?, child?, entries, lookup_setEntry_self, ih]

end FileTree

end CodeSearch
