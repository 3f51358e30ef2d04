import CodeSearch.Proofs.FileTree.Lookup
import Mathlib

/-!
# Which source files there are, and in which order

The files below a directory are the regular files of its tree, each listed once. They are listed in
the order of the names on the way to them, compared byte by byte from the first name on, so that
the content of a directory comes before all entries whose names come after its own. It does not
matter how a directory holds its entries.

- `FileTree.IsTour`: the places of all files below a node, in this order; `FileTree.exists_tour`.
- `FileSystem.sourceFiles_cases`: source files are the files of a tour.
- `FileSystem.sourceFiles_without`: the source files when some files are missing.
- `FileSystem.sourceFiles_ordered`: which files are listed, and in which order.
- `FileSystem.sourceFiles_of_standardInput`: a directory whose files are not listed.
-/

namespace CodeSearch

/-- No directory on the way from `path` along the names has a path that is too long to be looked
into. -/
def Path.Opens (path : String) : List String → Prop
  | [] => True
  | name :: names => FileSystem.isTooLong path = false ∧ Opens (child path name) names

namespace FileTree

/-! ## Tours -/

/-- The bytes of the first names decide. -/
def Precedes (names others : List String) : Prop :=
  names.map Text.Utf8.bytes < others.map Text.Utf8.bytes

theorem Precedes.cons {names others : List String} (h : Precedes names others) (name : String) :
    Precedes (name :: names) (name :: others) := List.Lex.cons h

theorem precedes_of_lt {name other : String} (h : name < other) (names others : List String) :
    Precedes (name :: names) (other :: others) := List.Lex.rel (Text.Utf8.bytes_lt_bytes h)

/-- The places of all files below the node at a path, in order. -/
structure IsTour (path : String) (node : FileTree) (tour : List (List String)) : Prop where
  mem_iff : ∀ names, names ∈ tour ↔
    (∃ content, node.at? names = some (.file content)) ∧ Path.Opens path names
  ordered : tour.Pairwise Precedes

theorem filesOf_eq_map (path : String) (entries : List (String × FileTree)) :
    filesOf path entries =
      entries.map fun entry => (entry.1, files (Path.child path entry.1) entry.2) := by
  induction entries with
  | nil => rfl
  | cons entry entries ih => rw [filesOf, ih, List.map_cons]

/-- The entries of a directory in the order of their names. -/
def sorted (entries : List (String × FileTree)) : List (String × FileTree) :=
  entries.mergeSort fun a b => a.1 ≤ b.1

theorem mem_sorted {entries : List (String × FileTree)} {entry : String × FileTree} :
    entry ∈ sorted entries ↔ entry ∈ entries := List.mem_mergeSort

/-- Names that are different have an order. -/
theorem pairwise_sorted {entries : List (String × FileTree)}
    (hdistinct : (entries.map Prod.fst).Nodup) :
    (sorted entries).Pairwise fun a b => a.1 < b.1 := by
  have hle : (sorted entries).Pairwise fun a b => decide (a.1 ≤ b.1) = true := by
    refine List.pairwise_mergeSort ?_ ?_ entries
    · intro a b c hab hbc
      exact decide_eq_true (le_trans (of_decide_eq_true hab) (of_decide_eq_true hbc))
    · intro a b
      rw [Bool.or_eq_true, decide_eq_true_eq, decide_eq_true_eq]
      exact le_total a.1 b.1
  have hne : (sorted entries).Pairwise fun a b => a.1 ≠ b.1 := by
    have hperm : ((sorted entries).map Prod.fst).Perm (entries.map Prod.fst) :=
      (List.mergeSort_perm _ _).map _
    exact List.pairwise_map.mp (hperm.nodup_iff.mpr hdistinct)
  exact (hle.and hne).imp fun h => lt_of_le_of_ne (of_decide_eq_true h.1) h.2

/-- A directory that can be looked into lists what its entries list, one after the other. -/
theorem files_directory {path : String} (h : FileSystem.isTooLong path = false)
    (entries : List (String × FileTree)) :
    files path (.directory entries) =
      (sorted entries).flatMap fun entry => files (Path.child path entry.1) entry.2 := by
  have hsort : (filesOf path entries).mergeSort (fun a b => a.1 ≤ b.1) =
      (sorted entries).map fun entry => (entry.1, files (Path.child path entry.1) entry.2) := by
    rw [filesOf_eq_map, sorted]
    refine (List.map_mergeSort ?_).symm
    intro a _ b _
    rfl
  rw [files, if_neg (by rw [h]; exact Bool.false_ne_true), hsort, List.flatMap_map]

/-- Tours of the entries of a directory make a tour of the directory. -/
theorem IsTour.directory {path : String} {entries : List (String × FileTree)}
    (hdistinct : (entries.map Prod.fst).Nodup) (hlength : FileSystem.isTooLong path = false)
    {tour : String × FileTree → List (List String)}
    (htour : ∀ entry ∈ entries, IsTour (Path.child path entry.1) entry.2 (tour entry)) :
    IsTour path (.directory entries)
      ((sorted entries).flatMap fun entry => (tour entry).map (entry.1 :: ·)) where
  mem_iff := by
    intro names
    rw [List.mem_flatMap]
    constructor
    · rintro ⟨entry, hentry, hnames⟩
      rw [mem_sorted] at hentry
      obtain ⟨rest, hrest, rfl⟩ := List.mem_map.mp hnames
      obtain ⟨hfile, hopens⟩ := ((htour entry hentry).mem_iff rest).mp hrest
      refine ⟨?_, hlength, hopens⟩
      rw [at?_cons, child?, FileTree.entries, lookup_of_mem hdistinct hentry]
      exact hfile
    · rintro ⟨⟨content, hfile⟩, hopens⟩
      cases names with
      | nil => cases hfile
      | cons name rest =>
        rw [at?_cons] at hfile
        obtain ⟨child, hchild, hfile⟩ := Option.bind_eq_some_iff.mp hfile
        have hentry : (name, child) ∈ entries := mem_of_lookup hchild
        refine ⟨(name, child), mem_sorted.mpr hentry, List.mem_map_of_mem ?_⟩
        exact ((htour _ hentry).mem_iff rest).mpr ⟨⟨content, hfile⟩, hopens.2⟩
  ordered := by
    rw [List.pairwise_flatMap]
    constructor
    · intro entry hentry
      rw [mem_sorted] at hentry
      exact (htour entry hentry).ordered.map _ fun _ _ h => h.cons entry.1
    · refine (pairwise_sorted hdistinct).imp ?_
      intro entry other hlt names hnames others hothers
      obtain ⟨rest, -, rfl⟩ := List.mem_map.mp hnames
      obtain ⟨rest', -, rfl⟩ := List.mem_map.mp hothers
      exact precedes_of_lt hlt rest rest'

/-- The files below a proper node are those of a tour. -/
theorem exists_tour {node : FileTree} (h : node.IsProper) (path : String) :
    ∃ tour, IsTour path node tour ∧ node.files path = tour.map (Path.below path) := by
  induction h generalizing path with
  | file content =>
    refine ⟨[[]], ⟨?_, List.pairwise_singleton _ _⟩, rfl⟩
    intro names
    rw [List.mem_singleton]
    constructor
    · rintro rfl
      exact ⟨⟨content, rfl⟩, trivial⟩
    · rintro ⟨⟨other, hfile⟩, -⟩
      by_contra hne
      rw [at?_of_not_directory rfl hne] at hfile
      cases hfile
  | link target =>
    refine ⟨[], ⟨?_, .nil⟩, rfl⟩
    intro names
    constructor
    · exact fun h => absurd h List.not_mem_nil
    · rintro ⟨⟨content, hfile⟩, -⟩
      cases names with
      | nil => cases hfile
      | cons name rest => cases hfile
  | directory entries distinct names children ih =>
    cases hlength : FileSystem.isTooLong path with
    | true =>
      refine ⟨[], ⟨?_, .nil⟩, ?_⟩
      · intro names
        constructor
        · exact fun h => absurd h List.not_mem_nil
        · rintro ⟨⟨content, hfile⟩, hopens⟩
          cases names with
          | nil => cases hfile
          | cons name rest =>
            have hshort := hopens.1
            rw [hlength] at hshort
            cases hshort
      · rw [files, if_pos hlength]
        rfl
    | false =>
      choose! tour htour using ih
      have htours : ∀ entry ∈ entries,
          IsTour (Path.child path entry.1) entry.2 (tour entry (Path.child path entry.1)) :=
        fun entry hentry => (htour entry hentry _).1
      refine ⟨_, IsTour.directory distinct hlength htours, ?_⟩
      rw [files_directory hlength, List.map_flatMap]
      refine List.flatMap_congr fun entry hentry => ?_
      rw [(htour entry (mem_sorted.mp hentry) _).2, List.map_map]
      rfl

end FileTree

/-! ## Source files -/

namespace FileSystem

open FileTree (IsTour)

variable {system other : FileSystem} {root path : String} {extensions : List String}

/-- The root leads to `place`, and the names lead on from there to a regular file that has one of
the extensions. No links are followed behind the root. -/
structure IsSourceAt (system : FileSystem) (extensions : List String) (root : String)
    (place names : List String) : Prop where
  reached : ∃ node, system.resolve root = .existing place node
  file : ∃ content, system.root.kind? (place ++ names) = some (.file content)
  opens : Path.Opens root names
  matching : Path.hasExtension extensions (Path.below root names) = true

theorem IsSourceAt.isEntryName (hproper : system.root.IsProper) {place names : List String}
    (h : system.IsSourceAt extensions root place names) :
    ∀ name ∈ names, Path.IsEntryName name := by
  obtain ⟨content, hfile⟩ := h.file
  obtain ⟨-, hnames⟩ := hproper.at? (FileTree.kind?_eq_file.mp hfile)
  exact fun name hname => hnames name (List.mem_append_right _ hname)

/-- A source file is read as what it holds, unless its path is too long. -/
theorem IsSourceAt.readText? (hproper : system.root.IsProper) {place names : List String}
    (h : system.IsSourceAt extensions root place names)
    (hlength : isTooLong (Path.below root names) = false) :
    ∃ content, system.root.kind? (place ++ names) = some (.file content) ∧
      system.readText? (Path.below root names) = content.text? := by
  obtain ⟨node, hresolve⟩ := h.reached
  obtain ⟨content, hfile⟩ := h.file
  obtain ⟨-, -, -, hat⟩ := resolve_eq_existing_iff.mp hresolve
  have hnode : node.at? names = some (.file content) := by
    rw [FileTree.kind?_eq_file, FileTree.at?_append, hat] at hfile
    exact hfile
  exact ⟨content, hfile,
    readText?_of_resolve (resolve_below hresolve (h.isEntryName hproper) hnode hlength)⟩

/-- The source files are the files of a tour, unless the root leads to nothing. -/
theorem sourceFiles_cases (hproper : system.root.IsProper)
    (hroot : Path.isStandardInput root = false) (extensions : List String) :
    (∃ place node tour, system.resolve root = .existing place node ∧ node.IsProper ∧
      IsTour root node tour ∧ system.sourceFiles extensions root =
        (tour.map (Path.below root)).filter (Path.hasExtension extensions)) ∨
    ((∀ place node, system.resolve root ≠ .existing place node) ∧
      system.sourceFiles extensions root = []) := by
  unfold sourceFiles
  rw [if_neg (by rw [hroot]; exact Bool.false_ne_true)]
  cases hnode : system.node? root with
  | some node =>
    left
    obtain ⟨place, hresolve⟩ := node?_eq_some_iff.mp hnode
    obtain ⟨-, -, -, hat⟩ := resolve_eq_existing_iff.mp hresolve
    obtain ⟨tour, htour, hfiles⟩ := FileTree.exists_tour (hproper.at? hat).1 root
    refine ⟨place, node, tour, hresolve, (hproper.at? hat).1, htour, ?_⟩
    rw [← hfiles]
  | none =>
    right
    refine ⟨?_, rfl⟩
    intro place node hresolve
    rw [node?_eq_some_iff.mpr ⟨place, hresolve⟩] at hnode
    cases hnode

/-- The source files are the files with one of the extensions. -/
theorem mem_sourceFiles_iff (hproper : system.root.IsProper)
    (hroot : Path.isStandardInput root = false) :
    path ∈ system.sourceFiles extensions root ↔
      ∃ place names, path = Path.below root names ∧
        system.IsSourceAt extensions root place names := by
  rcases sourceFiles_cases hproper hroot extensions with
    ⟨place, node, tour, hresolve, -, htour, hfiles⟩ | ⟨hnowhere, hfiles⟩
  · obtain ⟨-, -, -, hat⟩ := resolve_eq_existing_iff.mp hresolve
    have hbelow : ∀ names, system.root.at? (place ++ names) = node.at? names := by
      intro names
      rw [FileTree.at?_append, hat]
      rfl
    rw [hfiles, List.mem_filter, List.mem_map]
    constructor
    · rintro ⟨⟨names, hnames, rfl⟩, hmatching⟩
      obtain ⟨⟨content, hfile⟩, hopens⟩ := (htour.mem_iff names).mp hnames
      refine ⟨place, names, rfl, ⟨node, hresolve⟩, ⟨content, ?_⟩, hopens, hmatching⟩
      rw [FileTree.kind?_eq_file, hbelow, hfile]
    · rintro ⟨place', names, rfl, ⟨node', hresolve'⟩, ⟨content, hfile⟩, hopens, hmatching⟩
      rw [hresolve] at hresolve'
      cases hresolve'
      rw [FileTree.kind?_eq_file, hbelow] at hfile
      exact ⟨⟨names, (htour.mem_iff names).mpr ⟨⟨content, hfile⟩, hopens⟩, rfl⟩, hmatching⟩
  · rw [hfiles]
    constructor
    · exact fun h => absurd h List.not_mem_nil
    · rintro ⟨place, names, -, ⟨node, hresolve⟩, -⟩
      exact absurd hresolve (hnowhere place node)

/-- Source files are listed in the order of their paths. -/
theorem pairwise_sourceFiles (hproper : system.root.IsProper)
    (hroot : Path.isStandardInput root = false) (extensions : List String) :
    (system.sourceFiles extensions root).Pairwise fun path next =>
      Path.order path < Path.order next := by
  rcases sourceFiles_cases hproper hroot extensions with
    ⟨place, node, tour, -, hnode, htour, hfiles⟩ | ⟨-, hfiles⟩
  · have hnames : ∀ names ∈ tour, ∀ name ∈ names, Path.IsEntryName name := by
      intro names hmem
      obtain ⟨⟨content, hfile⟩, -⟩ := (htour.mem_iff names).mp hmem
      exact (hnode.at? hfile).2
    rw [hfiles]
    refine List.Pairwise.filter _ (List.pairwise_map.mpr ?_)
    refine htour.ordered.imp_of_mem ?_
    intro names others hmem hmem' hprecedes
    exact Path.order_below_lt root (hnames names hmem) (hnames others hmem') hprecedes
  · rw [hfiles]
    exact .nil

/-- Two lists of source files are the same if they have the same members. -/
theorem eq_of_pairwise_order {paths others : List String}
    (hpaths : paths.Pairwise fun path next => Path.order path < Path.order next)
    (hothers : others.Pairwise fun path next => Path.order path < Path.order next)
    (h : ∀ path, path ∈ paths ↔ path ∈ others) : paths = others := by
  have hirrefl : Std.Irrefl fun path next => Path.order path < Path.order next :=
    ⟨fun path => List.lt_irrefl (Path.order path)⟩
  have hantisymm : Std.Antisymm fun path next => Path.order path < Path.order next :=
    ⟨fun path next hlt hgt => absurd (List.lt_trans hlt hgt) (List.lt_irrefl _)⟩
  exact hpaths.eq_of_mem_iff hothers h

/-- When some files are missing, the other ones are sources as before. -/
theorem isSourceAt_without_iff {gone : List String → Prop} (hhere : other.here = system.here)
    (hwithout : system.root.IsWithout other.root gone) {place names : List String} :
    other.IsSourceAt extensions root place names ↔
      system.IsSourceAt extensions root place names ∧ ¬ gone (place ++ names) := by
  constructor
  · rintro ⟨hreached, ⟨content, hfile⟩, hopens, hmatching⟩
    obtain ⟨hkept, hfile⟩ := hwithout.kind?_eq hfile
    obtain ⟨hreached, -⟩ := (exists_resolve_without_iff hhere hwithout).mp hreached
    exact ⟨⟨hreached, ⟨content, hfile⟩, hopens, hmatching⟩, hkept⟩
  · rintro ⟨⟨hreached, ⟨content, hfile⟩, hopens, hmatching⟩, hkept⟩
    refine ⟨(exists_resolve_without_iff hhere hwithout).mpr ⟨hreached, ?_⟩, ⟨content, ?_⟩, hopens,
      hmatching⟩
    · -- If the root itself is missing, then it is the file.
      intro hgone
      obtain ⟨missing, hmissing⟩ := hwithout.files place hgone
      by_cases hnames : names = []
      · rw [hnames, List.append_nil] at hkept
        exact hkept hgone
      · have hdirectory := FileTree.kind?_of_at?_append hnames (FileTree.kind?_eq_file.mp hfile)
        rw [hmissing] at hdirectory
        cases hdirectory
    · rw [hwithout.kept _ hkept, hfile]

/-- When some files are missing, the other source files are listed as before. -/
theorem mem_sourceFiles_without_iff {gone : List String → Prop}
    (hother : other.root.IsProper) (hhere : other.here = system.here)
    (hwithout : system.root.IsWithout other.root gone)
    (hroot : Path.isStandardInput root = false) :
    path ∈ other.sourceFiles extensions root ↔
      ∃ place names, path = Path.below root names ∧
        system.IsSourceAt extensions root place names ∧ ¬ gone (place ++ names) := by
  rw [mem_sourceFiles_iff hother hroot]
  simp only [isSourceAt_without_iff hhere hwithout]

theorem sourceFiles_eq_nil (h : Path.isStandardInput root = true) :
    system.sourceFiles extensions root = [] := by
  rw [sourceFiles, if_pos h]

/-- When some files are missing, the source files that are left are listed in the same order. -/
theorem sourceFiles_without {gone : List String → Prop} (hproper : system.root.IsProper)
    (hother : other.root.IsProper) (hhere : other.here = system.here)
    (hwithout : system.root.IsWithout other.root gone) (extensions : List String) (root : String) :
    other.sourceFiles extensions root =
        (system.sourceFiles extensions root).filter (fun path =>
          path ∈ other.sourceFiles extensions root) ∧
      ∀ path ∈ system.sourceFiles extensions root, ∃ place names,
        path = Path.below root names ∧ system.IsSourceAt extensions root place names ∧
        (path ∈ other.sourceFiles extensions root ↔ ¬ gone (place ++ names)) := by
  cases hroot : Path.isStandardInput root with
  | true =>
    rw [sourceFiles_eq_nil hroot, sourceFiles_eq_nil hroot]
    exact ⟨rfl, fun _ h => absurd h List.not_mem_nil⟩
  | false =>
    have hleft : ∀ path, path ∈ other.sourceFiles extensions root ↔ _ := fun path =>
      mem_sourceFiles_without_iff hother hhere hwithout hroot
    refine ⟨eq_of_pairwise_order (pairwise_sourceFiles hother hroot extensions)
      ((pairwise_sourceFiles hproper hroot extensions).filter _) ?_, ?_⟩
    · intro path
      rw [List.mem_filter, decide_eq_true_eq, iff_and_self, hleft,
        mem_sourceFiles_iff hproper hroot]
      rintro ⟨place, names, hpath, hsource, -⟩
      exact ⟨place, names, hpath, hsource⟩
    · intro path hmem
      obtain ⟨place, names, rfl, hsource⟩ := (mem_sourceFiles_iff hproper hroot).mp hmem
      refine ⟨place, names, rfl, hsource, ?_⟩
      rw [hleft]
      constructor
      · -- The path is that of one place only.
        rintro ⟨place', names', hpath, hsource', hkept⟩
        have hnames := Path.below_injective (hsource.isEntryName hproper)
          (hsource'.isEntryName hproper) hpath
        obtain ⟨node, hresolve⟩ := hsource.reached
        obtain ⟨node', hresolve'⟩ := hsource'.reached
        rw [hresolve] at hresolve'
        cases hresolve'
        rwa [hnames]
      · exact fun hkept => ⟨place, names, rfl, hsource, hkept⟩

/-- Every source file of a proper file system is listed, each once, and nothing else. They are
listed in the order of their paths, and so it does not matter in which order directories hold their
entries. The root may not be the path that stands for standard input. -/
theorem sourceFiles_ordered (hproper : system.root.IsProper)
    (hroot : Path.isStandardInput root = false) (extensions : List String) :
    (∀ path, path ∈ system.sourceFiles extensions root ↔
      ∃ place names, path = Path.below root names ∧
        system.IsSourceAt extensions root place names) ∧
    (∀ place names others, system.IsSourceAt extensions root place names →
      system.IsSourceAt extensions root place others →
      Path.below root names = Path.below root others → names = others) ∧
    (system.sourceFiles extensions root).Nodup ∧
    (system.sourceFiles extensions root).Pairwise (fun path next =>
      Path.order path < Path.order next) ∧
    ∀ other : FileSystem, other.root.IsProper → other.here = system.here →
      (∀ place, other.root.kind? place = system.root.kind? place) →
      other.sourceFiles extensions root = system.sourceFiles extensions root := by
  have hordered := pairwise_sourceFiles hproper hroot extensions
  refine ⟨fun path => mem_sourceFiles_iff hproper hroot, ?_, ?_, hordered, ?_⟩
  · intro place names others hnames hothers hpaths
    exact Path.below_injective (hnames.isEntryName hproper) (hothers.isEntryName hproper) hpaths
  · refine hordered.imp fun hlt heq => ?_
    rw [heq] at hlt
    exact List.lt_irrefl _ hlt
  · intro other hother hhere hkinds
    have hwithout : system.root.IsWithout other.root fun _ => False :=
      ⟨fun place _ => hkinds place, fun _ h => h.elim, fun _ h => h.elim⟩
    refine eq_of_pairwise_order (pairwise_sourceFiles hother hroot extensions) hordered ?_
    intro path
    rw [mem_sourceFiles_without_iff hother hhere hwithout hroot,
      mem_sourceFiles_iff hproper hroot]
    simp only [not_false_eq_true, and_true]

/-- A directory holds a file, a link, and a directory whose name is the beginning of that of the
file. They are listed in the same way in whatever order it holds them. -/
theorem sourceFiles_ordered_of_link :
    let file := FileTree.file (.bytes [])
    let entries := [("a.ts", file), ("l.ts", .link "a.ts"), ("a", .directory [("b.ts", file)])]
    let system : FileSystem := { root := .directory entries }
    let other : FileSystem := { root := .directory entries.reverse }
    system.sourceFiles ["ts"] "/" = ["/a/b.ts", "/a.ts"] ∧
      other.sourceFiles ["ts"] "/" = ["/a/b.ts", "/a.ts"] := by
  intro file entries system other
  have hdistinct : (entries.map Prod.fst).Nodup := by decide
  have hnames : ∀ entry ∈ entries, Path.IsEntryName entry.1 := by decide
  have hinner : (FileTree.directory [("b.ts", file)]).IsProper := by
    refine .directory _ (by decide) (by decide) ?_
    intro entry hentry
    rw [List.mem_singleton.mp hentry]
    exact .file _
  have hchildren : ∀ entry ∈ entries, entry.2.IsProper :=
    List.forall_mem_cons.mpr ⟨.file _, List.forall_mem_cons.mpr ⟨.link _,
      List.forall_mem_singleton.mpr hinner⟩⟩
  have hsystem : system.root.IsProper := .directory entries hdistinct hnames hchildren
  have hother : other.root.IsProper := by
    refine .directory _ ?_ ?_ ?_
    · rwa [List.map_reverse, List.nodup_reverse]
    · exact fun entry hentry => hnames entry (List.mem_reverse.mp hentry)
    · exact fun entry hentry => hchildren entry (List.mem_reverse.mp hentry)
  have hfiles : system.sourceFiles ["ts"] "/" = ["/a/b.ts", "/a.ts"] := by cbv
  obtain ⟨-, -, -, -, hsame⟩ := sourceFiles_ordered hsystem
    (by decide : Path.isStandardInput "/" = false) ["ts"]
  refine ⟨hfiles, ?_⟩
  rw [hsame other hother rfl
    (FileTree.kind?_of_perm hdistinct (List.reverse_perm entries).symm), hfiles]

/-- A directory can have the name that stands for standard input. Then its files are not listed,
unless the path of the directory says more than its name. -/
theorem sourceFiles_of_standardInput :
    let system : FileSystem :=
      { root := .directory [("-", .directory [("a.ts", .file (.bytes []))])] }
    system.IsSourceAt ["ts"] "-" ["-"] ["a.ts"] ∧ system.sourceFiles ["ts"] "-" = [] ∧
      system.sourceFiles ["ts"] "./-" = ["./-/a.ts"] := by
  intro system
  refine ⟨⟨⟨.directory [("a.ts", .file (.bytes []))], ?_⟩, ⟨.bytes [], rfl⟩, ⟨?_, trivial⟩, ?_⟩,
    ?_, ?_⟩
  · cbv
  · decide
  · decide +kernel
  · cbv
  · cbv

end FileSystem

end CodeSearch
