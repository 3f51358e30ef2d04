import CodeSearch.Proofs.Extract.PartTexts

/-!
# Traversals in document order

A traversal with a list of pending sites finds what the recursive walk of the outline finds, in the
same order. So what is said of a traversal can be said of one list of sites, whatever is kept.

- `Site.collect_root`: a traversal keeps sites of the walk.
- `Site.child_mem_preorder`: with a site the walk has those of its children.
-/

namespace CodeSearch.Site

/-! ## The walk -/

/-- A part comes first, then what is below it. -/
theorem preorder_eq (parent : Option Outline) (outline : Outline) :
    preorder parent outline =
      ⟨parent, outline⟩ :: preorderAll (some outline) outline.children := by
  cases outline
  rw [preorder, Outline.children]

theorem preorderAll_eq (parent : Option Outline) (outlines : List Outline) :
    preorderAll parent outlines = outlines.flatMap (preorder parent) := by
  induction outlines with
  | nil => rw [preorderAll, List.flatMap_nil]
  | cons outline rest ih => rw [preorderAll, List.flatMap_cons, ih]

/-- What is below a site is what the walks of its children find. -/
theorem flatMap_children (site : Site) :
    (site.children.flatMap fun child => preorder child.parent child.node) =
      preorderAll (some site.node) site.node.children := by
  rw [preorderAll_eq, children, List.flatMap_map]

/-- The pending sites are walked one after the other, and what is kept is kept in this order. -/
theorem collect_eq_filter (keep : Site → Bool) (pending : List Site) :
    collect keep pending =
      (pending.flatMap fun site => preorder site.parent site.node).filter keep := by
  fun_induction collect keep pending with
  | case1 => rfl
  | case2 site pending later hkeep ih =>
    rw [List.flatMap_cons, preorder_eq, List.cons_append, List.filter_cons_of_pos hkeep,
      ← flatMap_children, ← List.flatMap_append, ← ih]
  | case3 site pending later hkeep ih =>
    rw [List.flatMap_cons, preorder_eq, List.cons_append, List.filter_cons_of_neg hkeep,
      ← flatMap_children, ← List.flatMap_append, ← ih]

/-- A traversal of an outline finds the sites of the walk that are to be kept. -/
theorem collect_root (keep : Site → Bool) (outline : Outline) :
    collect keep [root outline] = (preorder none outline).filter keep := by
  rw [collect_eq_filter, List.flatMap_singleton]
  rfl

/-! ## Sites of the walk -/

theorem self_mem_preorder (parent : Option Outline) (outline : Outline) :
    ⟨parent, outline⟩ ∈ preorder parent outline := by
  rw [preorder_eq]
  exact List.mem_cons_self

mutual

/-- With a site the walk has those of its children. -/
theorem child_mem_preorder {site : Site} {child : Outline} (hchild : child ∈ site.node.children) :
    ∀ {parent : Option Outline} {outline : Outline}, site ∈ preorder parent outline →
      ⟨some site.node, child⟩ ∈ preorder parent outline
  | parent, .node kind field span children, h => by
    rw [preorder_eq] at h ⊢
    rcases List.mem_cons.mp h with rfl | h
    · -- The site is where the walk starts.
      refine List.mem_cons_of_mem _ ?_
      rw [preorderAll_eq]
      exact List.mem_flatMap.mpr ⟨child, hchild, self_mem_preorder _ _⟩
    · exact List.mem_cons_of_mem _ (child_mem_preorderAll hchild h)

theorem child_mem_preorderAll {site : Site} {child : Outline}
    (hchild : child ∈ site.node.children) :
    ∀ {parent : Option Outline} {outlines : List Outline}, site ∈ preorderAll parent outlines →
      ⟨some site.node, child⟩ ∈ preorderAll parent outlines
  | parent, [], h => by
    rw [preorderAll] at h
    exact absurd h List.not_mem_nil
  | parent, outline :: rest, h => by
    rw [preorderAll] at h ⊢
    rcases List.mem_append.mp h with h | h
    · exact List.mem_append_left _ (child_mem_preorder hchild h)
    · exact List.mem_append_right _ (child_mem_preorderAll hchild h)

end

end CodeSearch.Site
