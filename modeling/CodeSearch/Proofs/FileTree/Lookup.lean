import CodeSearch.Proofs.FileTree.Places

/-!
# Where paths lead

Paths lead from place to place, through links as well, and what matters for this is the kind of what
is at the places.

- `FileSystem.Leads`: components lead from one place to another; `FileSystem.leads_of_follow`,
  `FileSystem.follow_of_leads`.
- `FileSystem.follow_induction`: the steps in which components are followed.
- `FileSystem.resolve_below`: the path of a file below a node leads to this very file;
  `FileSystem.resolve_name`: the name of a file in the working directory.
- `FileSystem.readText?_of_resolve`: what a file is read as.
- `FileSystem.exists_resolve_without_iff`: where paths lead when some files are missing.
-/

namespace CodeSearch

namespace FileSystem

/-! ## Components -/

/-- The component leads to an entry of a directory. -/
structure IsStep (name : String) : Prop where
  nonempty : name ≠ ""
  notHere : name ≠ "."
  notAbove : name ≠ ".."

/-- Components lead from one place to another, with some links left to follow. -/
inductive Leads (root : FileTree) : Nat → List String → List String → List String → Prop where
  | arrived {links : Nat} {here : List String} (something : (root.kind? here).isSome) :
    Leads root links here [] here
  | skip {links : Nat} {here rest there : List String} {name : String}
    (directory : root.kind? here = some .directory) (nothing : name = "" ∨ name = ".")
    (next : Leads root links here rest there) : Leads root links here (name :: rest) there
  | above {links : Nat} {here rest there : List String}
    (directory : root.kind? here = some .directory)
    (next : Leads root links here.dropLast rest there) : Leads root links here (".." :: rest) there
  | enter {links : Nat} {here rest there : List String} {name : String} {kind : FileTree.Kind}
    (directory : root.kind? here = some .directory) (step : IsStep name)
    (entry : root.kind? (here ++ [name]) = some kind) (notLink : ∀ target, kind ≠ .link target)
    (next : Leads root links (here ++ [name]) rest there) :
    Leads root links here (name :: rest) there
  | link {links : Nat} {here rest there : List String} {name target : String}
    (directory : root.kind? here = some .directory) (step : IsStep name)
    (entry : root.kind? (here ++ [name]) = some (.link target))
    (next : Leads root links (if isAbsolute target then [] else here)
      (Path.components target ++ rest) there) : Leads root (links + 1) here (name :: rest) there

section

variable {root node : FileTree} {links : Nat} {here rest components there : List String}
  {name : String} {entries : List (String × FileTree)}

theorem follow_skip (hdirectory : root.at? here = some (.directory entries))
    (hname : name = "" ∨ name = ".") :
    follow root links here (name :: rest) = follow root links here rest := by
  rw [follow, hdirectory]
  dsimp only
  rw [if_pos (by simpa using hname)]

theorem follow_above (hdirectory : root.at? here = some (.directory entries)) :
    follow root links here (".." :: rest) = follow root links here.dropLast rest := by
  rw [follow, hdirectory]
  dsimp only
  rw [if_neg (by decide), if_pos rfl]

theorem follow_step (hdirectory : root.at? here = some (.directory entries))
    (hname : IsStep name) :
    follow root links here (name :: rest) =
      match entries.lookup name with
      | none => if rest.isEmpty && isFileName name then .free (here ++ [name]) else .nowhere
      | some (.link target) =>
        match links with
        | 0 => .nowhere
        | links + 1 =>
          follow root links (if isAbsolute target then [] else here)
            (Path.components target ++ rest)
      | some _ => follow root links (here ++ [name]) rest := by
  rw [follow, hdirectory]
  dsimp only
  rw [if_neg (by simpa using ⟨hname.nonempty, hname.notHere⟩)]
  exact if_neg hname.notAbove

theorem follow_of_not_directory (hnot : root.kind? here ≠ some .directory) :
    follow root links here (name :: rest) = .nowhere := by
  rw [follow]
  split
  · next hdirectory => exact absurd (FileTree.kind?_eq_directory.mpr ⟨_, hdirectory⟩) hnot
  · rfl

/-- Components are followed to the place that they lead to. -/
theorem follow_of_leads (h : Leads root links here components there)
    (hnode : root.at? there = some node) :
    follow root links here components = .existing there node := by
  induction h with
  | arrived something => rw [follow, hnode]
  | skip directory nothing next ih =>
    obtain ⟨entries, hdirectory⟩ := FileTree.kind?_eq_directory.mp directory
    rw [follow_skip hdirectory nothing, ih hnode]
  | above directory next ih =>
    obtain ⟨entries, hdirectory⟩ := FileTree.kind?_eq_directory.mp directory
    rw [follow_above hdirectory, ih hnode]
  | enter directory step entry notLink next ih =>
    obtain ⟨entries, hdirectory⟩ := FileTree.kind?_eq_directory.mp directory
    rw [FileTree.kind?_entry hdirectory] at entry
    obtain ⟨child, hchild, rfl⟩ := Option.map_eq_some_iff.mp entry
    rw [follow_step hdirectory step, hchild, ← ih hnode]
    cases child with
    | link target => exact absurd rfl (notLink target)
    | file content => rfl
    | directory inner => rfl
  | link directory step entry next ih =>
    obtain ⟨entries, hdirectory⟩ := FileTree.kind?_eq_directory.mp directory
    rw [FileTree.kind?_entry hdirectory] at entry
    obtain ⟨child, hchild, hkind⟩ := Option.map_eq_some_iff.mp entry
    rw [follow_step hdirectory step, hchild, FileTree.eq_link_of_kind hkind, ← ih hnode]

theorem isStep_of_not (h : ¬ (decide (name = "") || decide (name = ".")) = true)
    (habove : name ≠ "..") : IsStep name := by
  rw [Bool.or_eq_true, decide_eq_true_eq, decide_eq_true_eq, not_or] at h
  exact ⟨h.1, h.2, habove⟩

/-- Components that are followed to somewhere are followed step by step. They end at a node or at a
free name. -/
@[elab_as_elim]
theorem follow_induction {target : Place} {motive : Nat → List String → List String → Prop}
    (existing : ∀ {links here node}, root.at? here = some node → target = .existing here node →
      motive links here [])
    (free : ∀ {links here name entries}, root.at? here = some (.directory entries) → IsStep name →
      entries.lookup name = none → target = .free (here ++ [name]) → motive links here [name])
    (skip : ∀ {links here name rest}, root.kind? here = some .directory →
      name = "" ∨ name = "." → motive links here rest → motive links here (name :: rest))
    (above : ∀ {links here rest}, root.kind? here = some .directory →
      motive links here.dropLast rest → motive links here (".." :: rest))
    (enter : ∀ {links here name rest kind}, root.kind? here = some .directory → IsStep name →
      root.kind? (here ++ [name]) = some kind → (∀ path, kind ≠ .link path) →
      motive links (here ++ [name]) rest → motive links here (name :: rest))
    (link : ∀ {links here name rest path}, root.kind? here = some .directory → IsStep name →
      root.kind? (here ++ [name]) = some (.link path) →
      motive links (if isAbsolute path then [] else here) (Path.components path ++ rest) →
      motive (links + 1) here (name :: rest))
    (h : follow root links here components = target) (hsomewhere : target ≠ .nowhere) :
    motive links here components := by
  induction links, here, components using follow.induct root with
  | case1 links here found hfound =>
    rw [follow, hfound] at h
    exact existing hfound h.symm
  | case2 links here hnone =>
    rw [follow, hnone] at h
    exact absurd h.symm hsomewhere
  | case3 links here name rest entries hdirectory hname ih =>
    have hnothing : name = "" ∨ name = "." := by simpa using hname
    rw [follow_skip hdirectory hnothing] at h
    exact skip (FileTree.kind?_eq_directory.mpr ⟨_, hdirectory⟩) hnothing (ih h)
  | case4 links here rest entries hdirectory hname ih =>
    rw [follow_above hdirectory] at h
    exact above (FileTree.kind?_eq_directory.mpr ⟨_, hdirectory⟩) (ih h)
  | case5 links here name rest entries hdirectory hname habove hnone hlast =>
    have hstep := isStep_of_not hname habove
    rw [follow_step hdirectory hstep, hnone] at h
    dsimp only at h
    rw [if_pos hlast] at h
    rw [Bool.and_eq_true, List.isEmpty_iff] at hlast
    rw [hlast.1]
    exact free hdirectory hstep hnone h.symm
  | case6 links here name rest entries hdirectory hname habove hnone hlast =>
    rw [follow_step hdirectory (isStep_of_not hname habove), hnone] at h
    dsimp only at h
    rw [if_neg hlast] at h
    exact absurd h.symm hsomewhere
  | case7 here name rest entries hdirectory hname habove path hlink =>
    rw [follow_step hdirectory (isStep_of_not hname habove), hlink] at h
    exact absurd h.symm hsomewhere
  | case8 here name rest entries hdirectory hname habove path hlink links ih =>
    have hstep := isStep_of_not hname habove
    rw [follow_step hdirectory hstep, hlink] at h
    have hentry : root.kind? (here ++ [name]) = some (.link path) := by
      rw [FileTree.kind?_entry hdirectory, hlink]
      rfl
    exact link (FileTree.kind?_eq_directory.mpr ⟨_, hdirectory⟩) hstep hentry (ih h)
  | case9 links here name rest entries hdirectory hname habove child hkind hchild ih =>
    have hstep := isStep_of_not hname habove
    have hnext : follow root links (here ++ [name]) rest = target := by
      rw [follow_step hdirectory hstep, hchild] at h
      cases child with
      | link path => exact absurd rfl (hkind path)
      | file content => exact h
      | directory inner => exact h
    have hentry : root.kind? (here ++ [name]) = some child.kind := by
      rw [FileTree.kind?_entry hdirectory, hchild]
      rfl
    have hnotLink : ∀ path, child.kind ≠ .link path := fun path hpath =>
      hkind path (FileTree.eq_link_of_kind hpath)
    exact enter (FileTree.kind?_eq_directory.mpr ⟨_, hdirectory⟩) hstep hentry hnotLink (ih hnext)
  | case10 links here name rest hnot =>
    have hkind : root.kind? here ≠ some .directory := by
      intro hdirectory
      obtain ⟨entries, hentries⟩ := FileTree.kind?_eq_directory.mp hdirectory
      exact hnot entries hentries
    rw [follow_of_not_directory hkind] at h
    exact absurd h.symm hsomewhere

/-- Components lead to where they are followed. -/
theorem leads_of_follow (h : follow root links here components = .existing there node) :
    Leads root links here components there ∧ root.at? there = some node := by
  refine follow_induction ?existing ?free ?skip ?above ?enter ?link h (by simp)
  case existing =>
    intro links here found hfound hthere
    cases hthere
    refine ⟨.arrived ?_, hfound⟩
    rw [FileTree.kind?, hfound]
    rfl
  case free =>
    intro links here name entries _ _ _ hthere
    cases hthere
  case skip =>
    intro links here name rest directory nothing next
    exact ⟨.skip directory nothing next.1, next.2⟩
  case above =>
    intro links here rest directory next
    exact ⟨.above directory next.1, next.2⟩
  case enter =>
    intro links here name rest kind directory step entry notLink next
    exact ⟨.enter directory step entry notLink next.1, next.2⟩
  case link =>
    intro links here name rest path directory step entry next
    exact ⟨.link directory step entry next.1, next.2⟩

/-- Components lead on to where others lead from the place that they lead to. -/
theorem Leads.append {last : List String} {more : List String}
    (h : Leads root links here components there)
    (hmore : ∀ links, Leads root links there more last) :
    Leads root links here (components ++ more) last := by
  induction h with
  | arrived something => exact hmore _
  | skip directory nothing next ih => exact .skip directory nothing (ih hmore)
  | above directory next ih => exact .above directory (ih hmore)
  | enter directory step entry notLink next ih =>
    exact .enter directory step entry notLink (ih hmore)
  | link directory step entry next ih =>
    have hnext := ih hmore
    rw [List.append_assoc] at hnext
    exact .link directory step entry hnext

/-- An empty component at the end changes nothing. -/
theorem Leads.of_append_empty (h : Leads root links here (components ++ [""]) there) :
    Leads root links here components there := by
  generalize hall : components ++ [""] = all at h
  induction h generalizing components with
  | arrived something => simp at hall
  | skip directory nothing next ih =>
    rcases List.append_eq_cons_iff.mp hall with ⟨rfl, hlast⟩ | ⟨rest, rfl, hrest⟩
    · cases hlast
      exact next
    · exact .skip directory nothing (ih hrest.symm)
  | above directory next ih =>
    rcases List.append_eq_cons_iff.mp hall with ⟨rfl, hlast⟩ | ⟨rest, rfl, hrest⟩
    · simp at hlast
    · exact .above directory (ih hrest.symm)
  | enter directory step entry notLink next ih =>
    rcases List.append_eq_cons_iff.mp hall with ⟨rfl, hlast⟩ | ⟨rest, rfl, hrest⟩
    · cases hlast
      exact absurd rfl step.nonempty
    · exact .enter directory step entry notLink (ih hrest.symm)
  | link directory step entry next ih =>
    rcases List.append_eq_cons_iff.mp hall with ⟨rfl, hlast⟩ | ⟨rest, rfl, hrest⟩
    · cases hlast
      exact absurd rfl step.nonempty
    · refine .link directory step entry (ih ?_)
      rw [hrest, List.append_assoc]

/-- Names lead to what is below a place, if there are only directories on the way. -/
theorem leads_below {names : List String} (links : Nat)
    (hnames : ∀ name ∈ names, Path.IsEntryName name)
    (hnode : root.at? (here ++ names) = some node) (hkind : ∀ target, node ≠ .link target) :
    Leads root links here names (here ++ names) := by
  induction names generalizing here with
  | nil =>
    rw [List.append_nil] at hnode ⊢
    refine .arrived ?_
    rw [FileTree.kind?, hnode]
    rfl
  | cons name names ih =>
    obtain ⟨hname, hrest⟩ := List.forall_mem_cons.mp hnames
    have hdirectory := FileTree.kind?_of_at?_append (List.cons_ne_nil name names) hnode
    rw [List.append_cons] at hnode ⊢
    obtain ⟨child, hchild, -⟩ := Option.bind_eq_some_iff.mp
      ((FileTree.at?_append root (here ++ [name]) names).symm.trans hnode)
    have hentry : root.kind? (here ++ [name]) = some child.kind := by
      rw [FileTree.kind?, hchild]
      rfl
    -- The entry is a directory, or it is where the names end.
    have hnotLink : ∀ target, child.kind ≠ .link target := by
      intro target htarget
      by_cases hlast : names = []
      · rw [hlast, List.append_nil, hchild] at hnode
        cases hnode
        exact hkind target (FileTree.eq_link_of_kind htarget)
      · rw [FileTree.kind?_of_at?_append hlast hnode] at hentry
        rw [← Option.some.inj hentry] at htarget
        cases htarget
    exact .enter hdirectory ⟨hname.nonempty, hname.notHere, hname.notAbove⟩ hentry hnotLink
      (ih hrest hnode)

end

end FileSystem

/-! ## Paths of files -/

/-- The text of a file whose bytes are one. An index is not read as bytes. -/
def FileContent.text? : FileContent → Option String
  | .bytes held => (Text.Utf8.text? held).map String.ofList
  | .index _ => none

namespace FileSystem

variable {files : FileSystem} {root : String} {place : List String} {node : FileTree}

theorem isAbsolute_append {path : String} (hpath : path ≠ "") (rest : String) :
    isAbsolute (path ++ rest) = isAbsolute path := by
  have hne : path.toList ≠ [] := fun h => hpath (String.toList_eq_nil_iff.mp h)
  rw [isAbsolute, isAbsolute, String.toList_append, List.head?_append_of_ne_nil _ hne]

/-- Where a path leads, if it leads to something. -/
theorem resolve_eq_existing_iff :
    files.resolve root = .existing place node ↔
      root ≠ "" ∧ isTooLong root = false ∧
        Leads files.root maxLinks (if isAbsolute root then [] else files.here)
          (Path.components root) place ∧
        files.root.at? place = some node := by
  unfold resolve
  constructor
  · intro h
    split at h
    · cases h
    · next hvalid =>
      rw [Bool.or_eq_true, not_or, decide_eq_true_eq, Bool.not_eq_true] at hvalid
      exact ⟨hvalid.1, hvalid.2, leads_of_follow h⟩
  · rintro ⟨hempty, hlength, hleads, hnode⟩
    rw [if_neg (by simp [hempty, hlength])]
    exact follow_of_leads hleads hnode

theorem node?_eq_some_iff :
    files.node? root = some node ↔ ∃ place, files.resolve root = .existing place node := by
  unfold node?
  constructor
  · intro h
    split at h
    · next place found hresolve =>
      cases h
      exact ⟨place, hresolve⟩
    · cases h
  · rintro ⟨place, hresolve⟩
    rw [hresolve]

/-- The path of a file below a node leads to this very file. -/
theorem resolve_below {names : List String} {content : FileContent}
    (hroot : files.resolve root = .existing place node)
    (hnames : ∀ name ∈ names, Path.IsEntryName name)
    (hfile : node.at? names = some (.file content))
    (hlength : isTooLong (Path.below root names) = false) :
    files.resolve (Path.below root names) = .existing (place ++ names) (.file content) := by
  obtain ⟨hempty, -, hleads, hnode⟩ := resolve_eq_existing_iff.mp hroot
  have hbelow : files.root.at? (place ++ names) = some (.file content) := by
    rw [FileTree.at?_append, hnode]
    exact hfile
  obtain ⟨rest, hrest⟩ := Path.exists_below_eq_append root names
  refine resolve_eq_existing_iff.mpr ⟨?_, hlength, ?_, hbelow⟩
  · rw [hrest]
    intro h
    exact hempty (String.append_eq_empty_iff.mp h).1
  · rw [hrest, isAbsolute_append hempty, ← hrest]
    by_cases hne : names = []
    · rw [hne, List.append_nil]
      exact hleads
    · obtain ⟨before, hcomponents, hbefore⟩ := Path.exists_components_below root hnames hne
      have hstart : Leads files.root maxLinks (if isAbsolute root then [] else files.here) before
          place := by
        rcases hbefore with hbefore | hbefore
        · exact hbefore ▸ hleads
        · exact Leads.of_append_empty (hbefore ▸ hleads)
      rw [hcomponents]
      exact hstart.append fun links => leads_below links hnames hbelow (by simp)

theorem isTooLong_of_isFileName {name : String} (h : isFileName name = true) :
    isTooLong name = false := by
  rw [isFileName, Bool.and_eq_true, decide_eq_true_eq] at h
  rw [isTooLong, maxPathSize, decide_eq_false_iff_not]
  omega

theorem isAbsolute_of_isEntryName {name : String} (h : Path.IsEntryName name) :
    isAbsolute name = false := by
  rw [isAbsolute, decide_eq_false_iff_not]
  exact fun hslash => h.single (List.mem_of_head? hslash)

/-- The name of a file in the working directory leads to this file. -/
theorem resolve_name {name : String} {content : FileContent} (hname : Path.IsEntryName name)
    (hvalid : isFileName name = true)
    (hfile : files.root.at? (files.here ++ [name]) = some (.file content)) :
    files.resolve name = .existing (files.here ++ [name]) (.file content) := by
  refine resolve_eq_existing_iff.mpr ⟨hname.nonempty, isTooLong_of_isFileName hvalid, ?_, hfile⟩
  rw [isAbsolute_of_isEntryName hname, Path.components_name hname.single]
  exact leads_below maxLinks (List.forall_mem_singleton.mpr hname) hfile (by simp)

/-- What a file is read as. -/
theorem readText?_of_resolve {content : FileContent}
    (h : files.resolve root = .existing place (.file content)) :
    files.readText? root = content.text? := by
  rw [readText?, read?, node?_eq_some_iff.mpr ⟨place, h⟩]
  cases content <;> rfl

theorem readText?_of_isTooLong (h : isTooLong root = true) : files.readText? root = none := by
  have hnode : files.node? root = none := by
    rw [node?, resolve, if_pos (by rw [h, Bool.or_true])]
  rw [readText?, read?, hnode]
  rfl

end FileSystem

/-! ## Trees without some files -/

namespace FileSystem

open FileTree (IsWithout)

variable {tree other : FileTree} {gone : List String → Prop} {links : Nat}
  {here components there : List String}

/-- There is nothing behind a file. -/
theorem Leads.eq_of_file {content : FileContent} (h : Leads tree links here components there)
    (hfile : tree.kind? here = some (.file content)) : there = here := by
  cases h with
  | arrived something => rfl
  | skip directory nothing next => simp [hfile] at directory
  | above directory next => simp [hfile] at directory
  | enter directory step entry notLink next => simp [hfile] at directory
  | link directory step entry next => simp [hfile] at directory

/-- In a tree without some files, components lead to the same places. -/
theorem Leads.of_without (hwithout : tree.IsWithout other gone)
    (h : Leads other links here components there) :
    Leads tree links here components there ∧ ¬ gone there := by
  induction h with
  | arrived something =>
    obtain ⟨kind, hkind⟩ := Option.isSome_iff_exists.mp something
    obtain ⟨hkept, hsame⟩ := hwithout.kind?_eq hkind
    exact ⟨.arrived (Option.isSome_iff_exists.mpr ⟨kind, hsame⟩), hkept⟩
  | skip directory nothing next ih =>
    exact ⟨.skip ((hwithout.directory_iff _).mp directory) nothing ih.1, ih.2⟩
  | above directory next ih =>
    exact ⟨.above ((hwithout.directory_iff _).mp directory) ih.1, ih.2⟩
  | enter directory step entry notLink next ih =>
    exact ⟨.enter ((hwithout.directory_iff _).mp directory) step (hwithout.kind?_eq entry).2 notLink
      ih.1, ih.2⟩
  | link directory step entry next ih =>
    exact ⟨.link ((hwithout.directory_iff _).mp directory) step (hwithout.kind?_eq entry).2 ih.1,
      ih.2⟩

/-- They still lead to the places that are left. -/
theorem Leads.without (hwithout : tree.IsWithout other gone)
    (h : Leads tree links here components there) (hkept : ¬ gone there) :
    Leads other links here components there := by
  induction h with
  | arrived something =>
    rw [← hwithout.kept _ hkept] at something
    exact .arrived something
  | skip directory nothing next ih =>
    exact .skip ((hwithout.directory_iff _).mpr directory) nothing (ih hkept)
  | above directory next ih =>
    exact .above ((hwithout.directory_iff _).mpr directory) (ih hkept)
  | enter directory step entry notLink next ih =>
    refine .enter ((hwithout.directory_iff _).mpr directory) step ?_ notLink (ih hkept)
    rw [hwithout.kept _ ?_, entry]
    -- If the entry is gone, then it is a file, and so it is the one that is left.
    intro hgone
    obtain ⟨content, hfile⟩ := hwithout.files _ hgone
    rw [next.eq_of_file hfile] at hkept
    exact hkept hgone
  | link directory step entry next ih =>
    refine .link ((hwithout.directory_iff _).mpr directory) step ?_ (ih hkept)
    rw [hwithout.kept _ ?_, entry]
    intro hgone
    obtain ⟨content, hfile⟩ := hwithout.files _ hgone
    rw [hfile] at entry
    cases entry

/-- Components lead to something. -/
theorem Leads.isSome (h : Leads tree links here components there) :
    (tree.kind? there).isSome := by
  induction h with
  | arrived something => exact something
  | skip directory nothing next ih => exact ih
  | above directory next ih => exact ih
  | enter directory step entry notLink next ih => exact ih
  | link directory step entry next ih => exact ih

theorem exists_resolve_iff {files : FileSystem} {path : String} {place : List String} :
    (∃ node, files.resolve path = .existing place node) ↔
      path ≠ "" ∧ isTooLong path = false ∧
        Leads files.root maxLinks (if isAbsolute path then [] else files.here)
          (Path.components path) place := by
  constructor
  · rintro ⟨node, hresolve⟩
    obtain ⟨hempty, hlength, hleads, -⟩ := resolve_eq_existing_iff.mp hresolve
    exact ⟨hempty, hlength, hleads⟩
  · rintro ⟨hempty, hlength, hleads⟩
    have hsome := hleads.isSome
    rw [FileTree.kind?, Option.isSome_map] at hsome
    obtain ⟨node, hnode⟩ := Option.isSome_iff_exists.mp hsome
    exact ⟨node, resolve_eq_existing_iff.mpr ⟨hempty, hlength, hleads, hnode⟩⟩

/-- When some files are missing, paths lead to the same places, apart from those. -/
theorem exists_resolve_without_iff {files rest : FileSystem} {path : String} {place : List String}
    (hhere : rest.here = files.here) (hwithout : files.root.IsWithout rest.root gone) :
    (∃ node, rest.resolve path = .existing place node) ↔
      (∃ node, files.resolve path = .existing place node) ∧ ¬ gone place := by
  rw [exists_resolve_iff, exists_resolve_iff, hhere]
  constructor
  · rintro ⟨hempty, hlength, hleads⟩
    obtain ⟨hleads, hkept⟩ := hleads.of_without hwithout
    exact ⟨⟨hempty, hlength, hleads⟩, hkept⟩
  · rintro ⟨⟨hempty, hlength, hleads⟩, hkept⟩
    exact ⟨hempty, hlength, hleads.without hwithout hkept⟩

end FileSystem

end CodeSearch
