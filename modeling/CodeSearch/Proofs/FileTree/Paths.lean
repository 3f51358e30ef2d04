import CodeSearch.FileTree.SourceFiles
import CodeSearch.Proofs.Text.ByteOrder
import Mathlib.Data.List.Basic

/-!
# Paths below a directory

A place below a directory is a list of names, and its path is that of the directory with the names
behind it. The components of the path that say something are those of the directory and the names,
and so paths below one directory are ordered as the lists of names are.

- `Path.parts`: the components that say something; `Path.parts_below`.
- `Path.order`: the bytes of these, by which paths are compared.
- `Path.below_injective`: different names make different paths.
-/

namespace CodeSearch.Path

/-- A name that an entry of a directory can have. -/
structure IsEntryName (name : String) : Prop where
  nonempty : name ≠ ""
  notHere : name ≠ "."
  notAbove : name ≠ ".."
  single : '/' ∉ name.toList

instance (name : String) : Decidable (IsEntryName name) :=
  decidable_of_iff (name ≠ "" ∧ name ≠ "." ∧ name ≠ ".." ∧ '/' ∉ name.toList)
    ⟨fun ⟨nonempty, notHere, notAbove, single⟩ => ⟨nonempty, notHere, notAbove, single⟩,
      fun ⟨nonempty, notHere, notAbove, single⟩ => ⟨nonempty, notHere, notAbove, single⟩⟩

/-- The path of the place that a list of names leads to from a directory. -/
def below (directory : String) (names : List String) : String := names.foldl child directory

/-- The component says something. -/
def saysSomething (part : String) : Bool := part != "" && part != "."

/-- The components of a path that say something. -/
def parts (path : String) : List String := (components path).filter saysSomething

/-- What paths are compared by: their components, byte by byte. -/
def order (path : String) : List (List UInt8) := (parts path).map Text.Utf8.bytes

@[simp] theorem below_nil (directory : String) : below directory [] = directory := rfl

@[simp] theorem below_cons (directory name : String) (names : List String) :
    below directory (name :: names) = below (child directory name) names := rfl

/-! ## Components -/

/-- A slash ends a component. -/
theorem components_append (a b : String) :
    components (a ++ "/" ++ b) = components a ++ components b := by
  have htext : (a ++ "/" ++ b).toList = a.toList ++ '/' :: b.toList := by
    rw [String.toList_append, String.toList_append, List.append_assoc]
    rfl
  have hsplit : (a.toList ++ '/' :: b.toList).splitOn '/' =
      a.toList.splitOn '/' ++ b.toList.splitOn '/' :=
    List.splitOnP_append_cons _ _ (beq_self_eq_true '/')
  rw [components, htext, hsplit, List.map_append]
  rfl

theorem components_name {name : String} (h : '/' ∉ name.toList) : components name = [name] := by
  rw [components, List.splitOn_eq_singleton h, List.map_singleton, String.ofList_toList]

/-- A path that ends with a slash is another path with a slash behind it. -/
theorem exists_eq_append_slash {path : String} (h : path.toList.getLast? = some '/') :
    ∃ before, path = before ++ "/" := by
  obtain ⟨before, hbefore⟩ := List.getLast?_eq_some_iff.mp h
  refine ⟨String.ofList before, String.toList_inj.mp ?_⟩
  rw [hbefore, String.toList_append, String.toList_ofList]
  rfl

/-- The path of an entry has the components of the path of its directory, apart from an empty one at
the end, and its name. -/
theorem exists_components_child (directory : String) {name : String} (hname : '/' ∉ name.toList) :
    ∃ before, components (child directory name) = before ++ [name] ∧
      (components directory = before ∨ components directory = before ++ [""]) := by
  unfold child
  split
  · next hslash =>
    obtain ⟨before, rfl⟩ := exists_eq_append_slash hslash
    refine ⟨components before, ?_, Or.inr ?_⟩
    · rw [components_append, components_name hname]
    · have hempty : before ++ "/" = before ++ "/" ++ "" := (String.append_empty).symm
      rw [hempty, components_append]
      rfl
  · refine ⟨components directory, ?_, Or.inl rfl⟩
    rw [components_append, components_name hname]

/-- So it is with the path of a place below the directory. -/
theorem exists_components_below (directory : String) {names : List String}
    (hnames : ∀ name ∈ names, IsEntryName name) (hne : names ≠ []) :
    ∃ before, components (below directory names) = before ++ names ∧
      (components directory = before ∨ components directory = before ++ [""]) := by
  induction names generalizing directory with
  | nil => exact absurd rfl hne
  | cons name names ih =>
    obtain ⟨hname, hrest⟩ := List.forall_mem_cons.mp hnames
    obtain ⟨before, hchild, hdirectory⟩ := exists_components_child directory hname.single
    refine ⟨before, ?_, hdirectory⟩
    by_cases hlast : names = []
    · rw [hlast]
      exact hchild
    · obtain ⟨between, hbelow, hbetween⟩ := ih (child directory name) hrest hlast
      -- The path of the entry does not end with a slash.
      have hself : between = before ++ [name] := by
        rcases hbetween with hbetween | hbetween
        · rw [← hbetween, hchild]
        · rw [hchild] at hbetween
          have hempty := (List.append_inj' hbetween rfl).2
          exact absurd (List.cons.inj hempty).1 hname.nonempty
      rw [below_cons, hbelow, hself, List.append_assoc]
      rfl

theorem parts_child (directory : String) {name : String} (hname : IsEntryName name) :
    parts (child directory name) = parts directory ++ [name] := by
  obtain ⟨before, hchild, hdirectory⟩ := exists_components_child directory hname.single
  have hself : [name].filter saysSomething = [name] := by
    rw [List.filter_singleton, saysSomething, bne_iff_ne.mpr hname.nonempty,
      bne_iff_ne.mpr hname.notHere]
    rfl
  rw [parts, parts, hchild, List.filter_append, hself]
  rcases hdirectory with hdirectory | hdirectory
  · rw [hdirectory]
  · rw [hdirectory, List.filter_append]
    simp [saysSomething]

/-- The path of a place has the components of the path of the directory, and the names. -/
theorem parts_below (directory : String) {names : List String}
    (hnames : ∀ name ∈ names, IsEntryName name) :
    parts (below directory names) = parts directory ++ names := by
  induction names generalizing directory with
  | nil => rw [below_nil, List.append_nil]
  | cons name names ih =>
    obtain ⟨hname, hrest⟩ := List.forall_mem_cons.mp hnames
    rw [below_cons, ih _ hrest, parts_child directory hname, List.append_assoc]
    rfl

/-- Everything below a directory is found from where the directory is found. -/
theorem exists_below_eq_append (directory : String) (names : List String) :
    ∃ rest, below directory names = directory ++ rest := by
  induction names generalizing directory with
  | nil => exact ⟨"", (String.append_empty).symm⟩
  | cons name names ih =>
    obtain ⟨rest, hrest⟩ := ih (child directory name)
    rw [below_cons, hrest, child]
    split
    · exact ⟨name ++ rest, String.append_assoc⟩
    · exact ⟨"/" ++ name ++ rest, by simp only [String.append_assoc]⟩

/-! ## Order -/

/-- Places are compared by the bytes of their names. -/
theorem order_below_lt (directory : String) {names others : List String}
    (hnames : ∀ name ∈ names, IsEntryName name) (hothers : ∀ name ∈ others, IsEntryName name)
    (h : names.map Text.Utf8.bytes < others.map Text.Utf8.bytes) :
    order (below directory names) < order (below directory others) := by
  rw [order, order, parts_below directory hnames, parts_below directory hothers, List.map_append,
    List.map_append]
  exact List.append_left_lt h

/-- Different places have different paths. -/
theorem below_injective {directory : String} {names others : List String}
    (hnames : ∀ name ∈ names, IsEntryName name) (hothers : ∀ name ∈ others, IsEntryName name)
    (h : below directory names = below directory others) : names = others := by
  have hparts := congrArg parts h
  rw [parts_below directory hnames, parts_below directory hothers] at hparts
  exact List.append_cancel_left hparts

end CodeSearch.Path
