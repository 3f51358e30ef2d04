import CodeSearch.Proofs.FileTree.Lookup
import CodeSearch.Proofs.FileTree.Removal

/-!
# Writing a file

A file that is written changes its own place and no other one. So components lead where they led
before, and the path that the file was written to leads to it.

- `FileTree.TakesFile`: the places at which a file can stand; `FileTree.TakesFile.kind?_put`: what
  is at each place after a file was put there.
- `FileSystem.Leads.put`, `FileSystem.leads_of_follow_free`: where components lead afterwards.
- `FileSystem.exists_write?_iff`: which paths a file can be written to;
  `FileSystem.isWritable_of_absent`: a free name in the working directory.
- `FileSystem.resolve_of_write?`: the path leads to the file that was written.
-/

namespace CodeSearch

namespace FileTree

variable {tree : FileTree} {place other : List String} {content : FileContent}
  {entries : List (String × FileTree)} {name : String}

/-! ## Places for files -/

/-- There is a file at the place, or its name is free in an existing directory. -/
inductive TakesFile : FileTree → List String → Prop where
  | file (content : FileContent) : TakesFile (.file content) []
  | free {entries : List (String × FileTree)} {name : String}
    (absent : entries.lookup name = none) : TakesFile (.directory entries) [name]
  | inside {entries : List (String × FileTree)} {name : String} {child : FileTree}
    {names : List String} (entry : entries.lookup name = some child)
    (next : TakesFile child names) : TakesFile (.directory entries) (name :: names)

theorem takesFile_of_file (h : tree.at? place = some (.file content)) : tree.TakesFile place := by
  induction place generalizing tree with
  | nil =>
    cases h
    exact .file content
  | cons name names ih =>
    obtain ⟨child, hchild, hfile⟩ := Option.bind_eq_some_iff.mp h
    cases tree with
    | file held => cases hchild
    | link target => cases hchild
    | directory entries => exact .inside hchild (ih hfile)

theorem takesFile_of_free (h : tree.at? place = some (.directory entries))
    (habsent : entries.lookup name = none) : tree.TakesFile (place ++ [name]) := by
  induction place generalizing tree with
  | nil =>
    cases h
    exact .free habsent
  | cons next names ih =>
    obtain ⟨child, hchild, hdirectory⟩ := Option.bind_eq_some_iff.mp h
    cases tree with
    | file held => cases hchild
    | link target => cases hchild
    | directory around => exact .inside hchild (ih hdirectory)

/-- Nothing but a file is at such a place. -/
theorem TakesFile.eq_file (h : tree.TakesFile place) {kind : Kind}
    (hkind : tree.kind? place = some kind) : ∃ content, kind = .file content := by
  induction h with
  | file content =>
    cases hkind
    exact ⟨content, rfl⟩
  | free absent =>
    rw [kind?_cons, absent] at hkind
    cases hkind
  | inside entry next ih =>
    rw [kind?_cons, entry] at hkind
    exact ih hkind

theorem kind?_file (content : FileContent) (names : List String) :
    (FileTree.file content).kind? names = if names = [] then some (.file content) else none := by
  cases names with
  | nil => rfl
  | cons name names =>
    rw [if_neg (List.cons_ne_nil name names)]
    rfl

/-- When a file is put at its place, everything else is as before. -/
theorem TakesFile.kind?_put (h : tree.TakesFile place) (content : FileContent)
    (other : List String) :
    (tree.put (.file content) place).kind? other =
      if other = place then some (.file content) else tree.kind? other := by
  induction h generalizing other with
  | file held =>
    rw [put, kind?_file, kind?_file]
    split <;> rfl
  | @free entries name absent =>
    cases other with
    | nil => rfl
    | cons first rest =>
      rw [put, put, kind?_cons, kind?_cons]
      show ((setEntry name (.file content) entries).lookup first).bind _ = _
      by_cases hfirst : first = name
      · rw [hfirst, lookup_setEntry_self, Option.bind_some, kind?_file, absent]
        simp
      · rw [lookup_setEntry_of_ne hfirst, if_neg fun heq => hfirst (List.cons.inj heq).1]
  | @inside entries name child names entry next ih =>
    cases other with
    | nil => rfl
    | cons first rest =>
      have hchild : (FileTree.directory entries).child? name = some child := entry
      rw [put, hchild, kind?_cons, kind?_cons, Option.getD_some]
      show ((setEntry name (child.put (.file content) names) entries).lookup first).bind _ = _
      by_cases hfirst : first = name
      · rw [hfirst, lookup_setEntry_self, Option.bind_some, ih, entry]
        simp
      · rw [lookup_setEntry_of_ne hfirst, if_neg fun heq => hfirst (List.cons.inj heq).1]

/-- Directories and links are as before. -/
theorem TakesFile.kind?_put_of_kind? (h : tree.TakesFile place) (content : FileContent)
    {kind : Kind} (hkind : tree.kind? other = some kind) (hnot : ∀ held, kind ≠ .file held) :
    (tree.put (.file content) place).kind? other = some kind := by
  rw [h.kind?_put, if_neg, hkind]
  rintro rfl
  obtain ⟨held, hheld⟩ := h.eq_file hkind
  exact hnot held hheld

theorem TakesFile.directory_put (h : tree.TakesFile place) (content : FileContent)
    (hkind : tree.kind? other = some .directory) :
    (tree.put (.file content) place).kind? other = some .directory :=
  h.kind?_put_of_kind? content hkind (by simp)

theorem TakesFile.link_put (h : tree.TakesFile place) (content : FileContent) {target : String}
    (hkind : tree.kind? other = some (.link target)) :
    (tree.put (.file content) place).kind? other = some (.link target) :=
  h.kind?_put_of_kind? content hkind (by simp)

/-- Where there was something that is no link, there still is. -/
theorem TakesFile.exists_kind?_put (h : tree.TakesFile place) (content : FileContent) {kind : Kind}
    (hkind : tree.kind? other = some kind) (hnot : ∀ target, kind ≠ .link target) :
    ∃ kind, (tree.put (.file content) place).kind? other = some kind ∧
      ∀ target, kind ≠ .link target := by
  rw [h.kind?_put]
  by_cases heq : other = place
  · exact ⟨.file content, if_pos heq, by simp⟩
  · exact ⟨kind, (if_neg heq).trans hkind, hnot⟩

end FileTree

namespace FileSystem

/-! ## Paths -/

section

variable {root : FileTree} {links : Nat} {here components there place : List String}

/-- Components lead to where they led before the file was put at its place. -/
theorem Leads.put (h : Leads root links here components there) (hplace : root.TakesFile place)
    (content : FileContent) :
    Leads (root.put (.file content) place) links here components there := by
  induction h with
  | @arrived links here something =>
    refine .arrived ?_
    rw [hplace.kind?_put]
    split
    · rfl
    · exact something
  | skip directory nothing next ih =>
    exact .skip (hplace.directory_put content directory) nothing ih
  | above directory next ih => exact .above (hplace.directory_put content directory) ih
  | enter directory step entry notLink next ih =>
    obtain ⟨kind, hkind, hnot⟩ := hplace.exists_kind?_put content entry notLink
    exact .enter (hplace.directory_put content directory) step hkind hnot ih
  | link directory step entry next ih =>
    exact .link (hplace.directory_put content directory) step (hplace.link_put content entry) ih

/-- Components that lead to a free name lead to the file that is put there. -/
theorem leads_of_follow_free (h : follow root links here components = .free place) :
    root.TakesFile place ∧
      ∀ content, Leads (root.put (.file content) place) links here components place := by
  refine follow_induction ?existing ?free ?skip ?above ?enter ?link h (by simp)
  case existing =>
    intro links here node _ hplace
    cases hplace
  case free =>
    intro links here name entries hdirectory step hnone hplace
    cases hplace
    have hplace := FileTree.takesFile_of_free hdirectory hnone
    refine ⟨hplace, fun content => ?_⟩
    have hentry : (root.put (.file content) (here ++ [name])).kind? (here ++ [name]) =
        some (.file content) := by
      rw [hplace.kind?_put, if_pos rfl]
    refine .enter (hplace.directory_put content (FileTree.kind?_eq_directory.mpr ⟨_, hdirectory⟩))
      step hentry (by simp) (.arrived ?_)
    rw [hentry]
    rfl
  case skip =>
    rintro links here name rest directory nothing ⟨hplace, hleads⟩
    exact ⟨hplace, fun content =>
      .skip (hplace.directory_put content directory) nothing (hleads content)⟩
  case above =>
    rintro links here rest directory ⟨hplace, hleads⟩
    exact ⟨hplace, fun content =>
      .above (hplace.directory_put content directory) (hleads content)⟩
  case enter =>
    rintro links here name rest kind directory step entry notLink ⟨hplace, hleads⟩
    refine ⟨hplace, fun content => ?_⟩
    obtain ⟨kind, hkind, hnot⟩ := hplace.exists_kind?_put content entry notLink
    exact .enter (hplace.directory_put content directory) step hkind hnot (hleads content)
  case link =>
    rintro links here name rest path directory step entry ⟨hplace, hleads⟩
    exact ⟨hplace, fun content => .link (hplace.directory_put content directory) step
      (hplace.link_put content entry) (hleads content)⟩

end

/-! ## Files -/

variable {files saved : FileSystem} {path : String} {place : List String} {bytes : List UInt8}

/-- The path leads to a file, or to a name that is free. -/
inductive IsWritable (files : FileSystem) (path : String) : Prop where
  | existing {place : List String} {content : FileContent}
    (file : files.resolve path = .existing place (.file content))
  | free {place : List String} (absent : files.resolve path = .free place)

/-- A file can be written to these paths and to no other ones. -/
theorem exists_write?_iff (bytes : List UInt8) :
    (∃ saved, files.write? path bytes = some saved) ↔ files.IsWritable path := by
  constructor
  · rintro ⟨saved, h⟩
    rw [write?] at h
    split at h
    · next file => exact .existing file
    · next absent => exact .free absent
    · cases h
  · rintro (file | absent)
    · exact ⟨_, by rw [write?, file]⟩
    · exact ⟨_, by rw [write?, absent]⟩

theorem resolve_eq_free (h : files.resolve path = .free place) :
    path ≠ "" ∧ isTooLong path = false ∧
      follow files.root maxLinks (if isAbsolute path then [] else files.here)
        (Path.components path) = .free place := by
  unfold resolve at h
  split at h
  · cases h
  · next hvalid =>
    rw [Bool.or_eq_true, not_or, decide_eq_true_eq, Bool.not_eq_true] at hvalid
    exact ⟨hvalid.1, hvalid.2, h⟩

/-- A file can be written under a name that is free in the working directory. -/
theorem isWritable_of_absent {entries : List (String × FileTree)} {name : String}
    (hdirectory : files.root.at? files.here = some (.directory entries))
    (hname : Path.IsEntryName name) (hvalid : isFileName name = true)
    (habsent : entries.lookup name = none) : files.IsWritable name := by
  have hstep : IsStep name := ⟨hname.nonempty, hname.notHere, hname.notAbove⟩
  have hfree : files.resolve name = .free (files.here ++ [name]) := by
    rw [resolve, isTooLong_of_isFileName hvalid, isAbsolute_of_isEntryName hname,
      Path.components_name hname.single, if_neg (by simpa using hname.nonempty),
      if_neg Bool.false_ne_true, follow_step hdirectory hstep, habsent]
    exact if_pos hvalid
  exact .free hfree

/-- The path leads to the file that was written. -/
theorem resolve_of_write? (h : files.write? path bytes = some saved) :
    ∃ place, saved.resolve path = .existing place (.file (.bytes bytes)) := by
  rw [write?] at h
  split at h
  · next place held hresolve =>
    cases h
    obtain ⟨hempty, hlength, hleads, hfile⟩ := resolve_eq_existing_iff.mp hresolve
    exact ⟨place, resolve_eq_existing_iff.mpr ⟨hempty, hlength,
      hleads.put (FileTree.takesFile_of_file hfile) (.bytes bytes),
      FileTree.at?_put_self files.root _ place⟩⟩
  · next place hresolve =>
    cases h
    obtain ⟨hempty, hlength, hfollow⟩ := resolve_eq_free hresolve
    obtain ⟨-, hleads⟩ := leads_of_follow_free hfollow
    exact ⟨place, resolve_eq_existing_iff.mpr ⟨hempty, hlength, hleads (.bytes bytes),
      FileTree.at?_put_self files.root _ place⟩⟩
  · cases h

end FileSystem

end CodeSearch
