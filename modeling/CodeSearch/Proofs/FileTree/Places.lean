import CodeSearch.Proofs.FileTree.Paths

/-!
# Places of a tree

A tree can be known by what is at each of its places, and not by the order in which its directories
hold their entries.

- `FileTree.IsProper`: the entries of every directory have different names, which can be names.
- `FileTree.Kind`: what is at a place, apart from the entries of a directory; `FileTree.kind?`.
- `FileTree.kind?_of_perm`: the order of the entries does not matter.
- `FileTree.IsWithout`: a tree without some of the files of another one.
-/

namespace CodeSearch.FileTree

/-! ## Places -/

/-- The names of the entries of every directory are different, and can be names. -/
inductive IsProper : FileTree → Prop where
  | file (content : FileContent) : IsProper (.file content)
  | link (target : String) : IsProper (.link target)
  | directory (entries : List (String × FileTree)) (distinct : (entries.map Prod.fst).Nodup)
      (names : ∀ entry ∈ entries, Path.IsEntryName entry.1)
      (children : ∀ entry ∈ entries, IsProper entry.2) : IsProper (.directory entries)

theorem at?_cons (tree : FileTree) (name : String) (names : List String) :
    tree.at? (name :: names) = (tree.child? name).bind fun child => child.at? names := rfl

theorem at?_append (tree : FileTree) (names more : List String) :
    tree.at? (names ++ more) = (tree.at? names).bind fun node => node.at? more := by
  induction names generalizing tree with
  | nil => rfl
  | cons name names ih =>
    rw [List.cons_append, at?_cons, at?_cons]
    cases tree.child? name with
    | none => rfl
    | some child => exact ih child

/-- There is nothing behind a node that is not a directory. -/
theorem at?_of_not_directory {tree : FileTree} (h : tree.isDirectory = false) {names : List String}
    (hnames : names ≠ []) : tree.at? names = none := by
  cases names with
  | nil => exact absurd rfl hnames
  | cons name names =>
    cases tree with
    | directory entries => cases h
    | file content => rfl
    | link target => rfl

/-- An entry is found under its name. -/
theorem lookup_of_mem {entries : List (String × FileTree)}
    (hdistinct : (entries.map Prod.fst).Nodup) {entry : String × FileTree} (h : entry ∈ entries) :
    entries.lookup entry.1 = some entry.2 := by
  induction entries with
  | nil => cases h
  | cons first entries ih =>
    rw [List.map_cons, List.nodup_cons] at hdistinct
    rcases List.mem_cons.mp h with rfl | h
    · rw [List.lookup_cons, beq_self_eq_true]
    · have hne : (entry.1 == first.1) = false := by
        rw [beq_eq_false_iff_ne]
        intro heq
        exact hdistinct.1 (heq ▸ List.mem_map_of_mem h)
      rw [List.lookup_cons, hne]
      exact ih hdistinct.2 h

theorem mem_of_lookup {entries : List (String × FileTree)} {name : String} {node : FileTree}
    (h : entries.lookup name = some node) : (name, node) ∈ entries := by
  obtain ⟨before, after, rfl, -⟩ := List.lookup_eq_some_iff.mp h
  exact List.mem_append_right _ List.mem_cons_self

theorem lookup_eq_some_iff {entries : List (String × FileTree)}
    (hdistinct : (entries.map Prod.fst).Nodup) (name : String) (node : FileTree) :
    entries.lookup name = some node ↔ (name, node) ∈ entries :=
  ⟨mem_of_lookup, fun h => lookup_of_mem hdistinct h⟩

/-- What is in a proper tree is proper, and is reached by names that entries can have. -/
theorem IsProper.at? {tree node : FileTree} (h : tree.IsProper) {names : List String}
    (hnode : tree.at? names = some node) :
    node.IsProper ∧ ∀ name ∈ names, Path.IsEntryName name := by
  induction names generalizing tree with
  | nil =>
    cases hnode
    exact ⟨h, fun _ hname => absurd hname List.not_mem_nil⟩
  | cons name names ih =>
    rw [at?_cons, child?] at hnode
    cases h with
    | file content => cases hnode
    | link target => cases hnode
    | directory entries distinct hnames children =>
      obtain ⟨child, hchild, hnode⟩ := Option.bind_eq_some_iff.mp hnode
      have hmem : (name, child) ∈ entries := mem_of_lookup hchild
      obtain ⟨hproper, hrest⟩ := ih (children _ hmem) hnode
      exact ⟨hproper, List.forall_mem_cons.mpr ⟨hnames _ hmem, hrest⟩⟩

/-- What is at a place, apart from the entries of a directory. -/
inductive Kind where
  | file (content : FileContent)
  | link (target : String)
  | directory
  deriving DecidableEq

/-- The kind of a node. -/
def kind : FileTree → Kind
  | .file content => .file content
  | .link target => .link target
  | .directory _ => .directory

theorem eq_link_of_kind {node : FileTree} {target : String} (h : node.kind = .link target) :
    node = .link target := by
  cases node with
  | link other =>
    cases h
    rfl
  | file content => cases h
  | directory entries => cases h

/-- What is at a place, if there is something. -/
def kind? (tree : FileTree) (place : List String) : Option Kind := (tree.at? place).map kind

theorem kind?_eq_directory {tree : FileTree} {place : List String} :
    tree.kind? place = some .directory ↔ ∃ entries, tree.at? place = some (.directory entries) := by
  constructor
  · intro h
    obtain ⟨node, hnode, hkind⟩ := Option.map_eq_some_iff.mp h
    cases node with
    | directory entries => exact ⟨entries, hnode⟩
    | file content => cases hkind
    | link target => cases hkind
  · rintro ⟨entries, h⟩
    rw [kind?, h]
    rfl

theorem kind?_eq_file {tree : FileTree} {place : List String} {content : FileContent} :
    tree.kind? place = some (.file content) ↔ tree.at? place = some (.file content) := by
  constructor
  · intro h
    obtain ⟨node, hnode, hkind⟩ := Option.map_eq_some_iff.mp h
    cases node with
    | directory entries => cases hkind
    | file other =>
      cases hkind
      exact hnode
    | link target => cases hkind
  · intro h
    rw [kind?, h]
    rfl

/-- There is a directory wherever something lies behind. -/
theorem kind?_of_at?_append {tree node : FileTree} {place names : List String} (hnames : names ≠ [])
    (h : tree.at? (place ++ names) = some node) : tree.kind? place = some .directory := by
  rw [at?_append] at h
  obtain ⟨parent, hparent, hnode⟩ := Option.bind_eq_some_iff.mp h
  cases hdirectory : parent.isDirectory with
  | false =>
    rw [at?_of_not_directory hdirectory hnames] at hnode
    cases hnode
  | true =>
    cases parent with
    | directory entries => exact kind?_eq_directory.mpr ⟨entries, hparent⟩
    | file content => cases hdirectory
    | link target => cases hdirectory

/-- What is at the place of an entry is what the directory has under its name. -/
theorem kind?_entry {tree : FileTree} {place : List String} {entries : List (String × FileTree)}
    (h : tree.at? place = some (.directory entries)) (name : String) :
    tree.kind? (place ++ [name]) = (entries.lookup name).map kind := by
  rw [kind?, at?_append, h]
  show (((FileTree.directory entries).child? name).bind some).map kind = _
  rw [Option.bind_fun_some]
  rfl

/-- It does not matter in which order a directory holds its entries. -/
theorem kind?_of_perm {entries others : List (String × FileTree)}
    (hdistinct : (entries.map Prod.fst).Nodup) (h : entries.Perm others) (place : List String) :
    (directory others).kind? place = (directory entries).kind? place := by
  cases place with
  | nil => rfl
  | cons name names =>
    have hlookup : others.lookup name = entries.lookup name := by
      refine Option.ext fun node => ?_
      rw [lookup_eq_some_iff hdistinct, lookup_eq_some_iff ((h.map _).nodup_iff.mp hdistinct),
        h.mem_iff]
    rw [kind?, kind?, at?_cons, at?_cons, child?, child?]
    show ((others.lookup name).bind _).map kind = ((entries.lookup name).bind _).map kind
    rw [hlookup]

/-! ## Trees without some files -/

/-- The other tree has the same at every place, apart from some files that it does not have. -/
structure IsWithout (tree other : FileTree) (gone : List String → Prop) : Prop where
  kept : ∀ place, ¬ gone place → other.kind? place = tree.kind? place
  absent : ∀ place, gone place → other.kind? place = none
  files : ∀ place, gone place → ∃ content, tree.kind? place = some (.file content)

variable {tree other : FileTree} {gone : List String → Prop}

theorem IsWithout.kind?_eq (h : tree.IsWithout other gone) {place : List String} {kind : Kind}
    (hkind : other.kind? place = some kind) : ¬ gone place ∧ tree.kind? place = some kind := by
  have hkept : ¬ gone place := by
    intro hgone
    rw [h.absent place hgone] at hkind
    cases hkind
  exact ⟨hkept, (h.kept place hkept).symm.trans hkind⟩

theorem IsWithout.directory_iff (h : tree.IsWithout other gone) (place : List String) :
    other.kind? place = some .directory ↔ tree.kind? place = some .directory := by
  constructor
  · exact fun hkind => (h.kind?_eq hkind).2
  · intro hkind
    rw [h.kept place ?_, hkind]
    intro hgone
    obtain ⟨content, hfile⟩ := h.files place hgone
    rw [hkind] at hfile
    cases hfile

end CodeSearch.FileTree
