import CodeSearch.Proofs.FileTree.Places

/-!
# Removing a file

A tree from which a file is removed has everything else as before.

- `FileTree.kind?_remove`: what is at each place after a file was removed.
- `FileTree.isWithout_remove`: the tree is without this file, and nothing else.
- `FileTree.IsProper.remove`: it is still proper.
-/

namespace CodeSearch.FileTree

/-! ## Entries -/

theorem lookup_removed (name other : String) (entries : List (String × FileTree)) :
    (entries.filter fun entry => entry.1 != name).lookup other =
      if other = name then none else entries.lookup other := by
  induction entries with
  | nil => simp
  | cons entry entries ih =>
    rw [List.filter_cons, List.lookup_cons]
    by_cases hentry : entry.1 = name
    · rw [if_neg (by simpa using hentry), ih]
      by_cases hother : other = name
      · rw [if_pos hother, if_pos hother]
      · have hne : (other == entry.1) = false := by
          rw [hentry, beq_eq_false_iff_ne]
          exact hother
        rw [if_neg hother, if_neg hother, hne]
    · rw [if_pos (by simpa using hentry), List.lookup_cons, ih]
      by_cases hother : other = entry.1
      · rw [hother, beq_self_eq_true]
        exact (if_neg hentry).symm
      · rw [beq_eq_false_iff_ne.mpr hother]

theorem lookup_setEntry_of_ne {name other : String} (h : other ≠ name) (node : FileTree)
    (entries : List (String × FileTree)) :
    (setEntry name node entries).lookup other = entries.lookup other := by
  induction entries with
  | nil => rw [setEntry, List.lookup_cons, beq_eq_false_iff_ne.mpr h]
  | cons entry entries ih =>
    rw [setEntry]
    by_cases hentry : entry.1 = name
    · rw [if_pos hentry, List.lookup_cons, List.lookup_cons, hentry, beq_eq_false_iff_ne.mpr h]
    · rw [if_neg hentry, List.lookup_cons, List.lookup_cons, ih]

/-- An entry that is replaced keeps its name. -/
theorem map_fst_setEntry {name : String} {entries : List (String × FileTree)}
    (h : name ∈ entries.map Prod.fst) (node : FileTree) :
    (setEntry name node entries).map Prod.fst = entries.map Prod.fst := by
  induction entries with
  | nil => cases h
  | cons entry entries ih =>
    rw [setEntry]
    by_cases hentry : entry.1 = name
    · rw [if_pos hentry, List.map_cons, List.map_cons, hentry]
    · rw [List.map_cons, List.mem_cons] at h
      rw [if_neg hentry, List.map_cons, List.map_cons, ih (h.resolve_left (Ne.symm hentry))]

theorem mem_setEntry {name : String} {node : FileTree} {entries : List (String × FileTree)}
    {entry : String × FileTree} (h : entry ∈ setEntry name node entries) :
    entry = (name, node) ∨ entry ∈ entries := by
  induction entries with
  | nil => exact Or.inl (List.mem_singleton.mp h)
  | cons first entries ih =>
    rw [setEntry] at h
    split at h
    · rcases List.mem_cons.mp h with rfl | h
      · exact Or.inl rfl
      · exact Or.inr (List.mem_cons_of_mem _ h)
    · rcases List.mem_cons.mp h with rfl | h
      · exact Or.inr List.mem_cons_self
      · exact (ih h).imp id (List.mem_cons_of_mem _)

/-! ## Trees -/

variable {tree : FileTree} {content : FileContent}

theorem kind?_cons (entries : List (String × FileTree)) (name : String) (names : List String) :
    (directory entries).kind? (name :: names) =
      (entries.lookup name).bind fun child => child.kind? names := by
  rw [kind?, at?_cons, Option.map_bind]
  rfl

/-- What is removed changes one entry: the entry is gone, or something is removed from it. -/
theorem exists_remove {entries : List (String × FileTree)} {name : String} {child : FileTree}
    (hchild : entries.lookup name = some child) (names : List String) :
    ∃ left, (directory entries).remove (name :: names) = .directory left ∧
      left.lookup name = (if names = [] then none else some (child.remove names)) ∧
      ∀ other, other ≠ name → left.lookup other = entries.lookup other := by
  cases names with
  | nil =>
    refine ⟨_, rfl, ?_, ?_⟩
    · rw [lookup_removed, if_pos rfl, if_pos rfl]
    · intro other hother
      rw [lookup_removed, if_neg hother]
      rfl
  | cons next names =>
    refine ⟨setEntry name (child.remove (next :: names)) entries, ?_, ?_, ?_⟩
    · rw [remove, child?, FileTree.entries, hchild]
      exact List.cons_ne_nil _ _
    · rw [lookup_setEntry_self, if_neg (List.cons_ne_nil next names)]
    · exact fun other hother => lookup_setEntry_of_ne hother _ entries

/-- When a file is removed, nothing is at its place, and everything else is as before. -/
theorem kind?_remove {place : List String} (h : tree.at? place = some (.file content))
    (hne : place ≠ []) (other : List String) :
    (tree.remove place).kind? other = if other = place then none else tree.kind? other := by
  induction place generalizing tree other with
  | nil => exact absurd rfl hne
  | cons name names ih =>
    obtain ⟨child, hchild, hfile⟩ := Option.bind_eq_some_iff.mp h
    cases tree with
    | file held => cases hchild
    | link target => cases hchild
    | directory entries =>
      change entries.lookup name = some child at hchild
      obtain ⟨left, hremove, hself, hothers⟩ := exists_remove hchild names
      rw [hremove]
      cases other with
      | nil => rfl
      | cons first rest =>
        rw [kind?_cons, kind?_cons]
        by_cases hfirst : first = name
        · rw [hfirst, hself, hchild, Option.bind_some]
          by_cases hnames : names = []
          · -- The entry is the file, and there is nothing behind it.
            rw [hnames] at hfile
            cases hfile
            rw [if_pos hnames, Option.bind_none, hnames]
            cases rest with
            | nil => rw [if_pos rfl]
            | cons next rest =>
              rw [if_neg (by simp)]
              rfl
          · rw [if_neg hnames, Option.bind_some, ih hfile hnames]
            simp
        · rw [hothers first hfirst, if_neg fun heq => hfirst (List.cons.inj heq).1]

/-- A tree from which a file is removed is without this file. -/
theorem isWithout_remove {place : List String} (h : tree.at? place = some (.file content))
    (hne : place ≠ []) : tree.IsWithout (tree.remove place) (· = place) where
  kept := by
    intro other hother
    rw [kind?_remove h hne, if_neg hother]
  absent := by
    rintro other rfl
    rw [kind?_remove h hne, if_pos rfl]
  files := by
    rintro other rfl
    exact ⟨content, kind?_eq_file.mpr h⟩

/-- The entries of a proper tree, if it has any. -/
theorem IsProper.entries (h : tree.IsProper) :
    (tree.entries.map Prod.fst).Nodup ∧ (∀ entry ∈ tree.entries, Path.IsEntryName entry.1) ∧
      ∀ entry ∈ tree.entries, entry.2.IsProper := by
  cases h with
  | file content => simp [FileTree.entries]
  | link target => simp [FileTree.entries]
  | directory entries distinct names children => exact ⟨distinct, names, children⟩

/-- A proper tree stays proper when something is removed. -/
theorem IsProper.remove (h : tree.IsProper) {place : List String} (hne : place ≠ []) :
    (tree.remove place).IsProper := by
  induction place generalizing tree with
  | nil => exact absurd rfl hne
  | cons name names ih =>
    obtain ⟨hdistinct, hnames, hchildren⟩ := h.entries
    cases names with
    | nil =>
      refine .directory _ (hdistinct.sublist (List.filter_sublist.map _)) ?_ ?_
      · exact fun entry hentry => hnames entry (List.mem_filter.mp hentry).1
      · exact fun entry hentry => hchildren entry (List.mem_filter.mp hentry).1
    | cons next names =>
      cases hchild : tree.child? name with
      | none =>
        rw [FileTree.remove, hchild]
        · exact h
        · exact List.cons_ne_nil _ _
      | some child =>
        have hentry : (name, child) ∈ tree.entries := mem_of_lookup hchild
        have hproper : (child.remove (next :: names)).IsProper :=
          ih (hchildren _ hentry) (List.cons_ne_nil _ _)
        rw [FileTree.remove, hchild]
        · refine .directory _ ?_ ?_ ?_
          · rwa [map_fst_setEntry (List.mem_map_of_mem hentry)]
          · intro entry hmem
            rcases mem_setEntry hmem with rfl | hmem
            · exact hnames (name, child) hentry
            · exact hnames entry hmem
          · intro entry hmem
            rcases mem_setEntry hmem with rfl | hmem
            · exact hproper
            · exact hchildren entry hmem
        · exact List.cons_ne_nil _ _

end CodeSearch.FileTree
