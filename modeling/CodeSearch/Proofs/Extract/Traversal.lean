import CodeSearch.Proofs.Extract.Preorder
import Mathlib.Data.List.Lex
import Mathlib.Logic.Function.Iterate

/-!
# Traversals with a stack

A traversal keeps the nodes that are still to be visited on a stack. It takes the last one and puts
its children in its place, the first child on top. What is on the stack is therefore the part of the
recursive walk that is still to come, and every step takes one node off its front: after `n` steps
the first `n` nodes of the walk have been visited, and the stack is empty as soon as there are no
more.

Parts of an outline that look the same are still different parts. They are told apart by their
spots: a spot is the way to a site, given by the number of the child that is taken on each level.

- `Traversal.step`, `Traversal.after`: the traversal, over any kind of nodes.
- `Traversal.step_eq`, `Traversal.iterate_step`: what a step and a run of steps leave of the walk.
- `Traversal.Ends`, `Traversal.ends_of_walk`: when a traversal ends, and what it has found then.
- `Spot`, `Site.spots`: the spots at and below a site, in the order of the recursive walk.
- `Spot.mem_walk_iff`, `Spot.pairwise_walk`: the walk has every spot once, ordered by the ways.
- `Site.collect_documentOrder`: what a traversal of an outline finds, and that it ends.
-/

namespace CodeSearch

/-! ## The stack -/

/-- The state of a traversal: the nodes that are still to be visited, the next one last, and those
that were kept so far. -/
structure Traversal (α : Type) where
  stack : List α
  found : List α

namespace Traversal

variable {α : Type} (children : α → List α) (keep : α → Bool)

/-- Nothing is visited yet. -/
def start (root : α) : Traversal α := ⟨[root], []⟩

/-- The last node of the stack is visited, and its children go on the stack from right to left. -/
def step (state : Traversal α) : Traversal α :=
  match state.stack.getLast? with
  | none => state
  | some node =>
    { stack := state.stack.dropLast ++ (children node).reverse
      found := if keep node then state.found ++ [node] else state.found }

/-- The state after some steps from a root. -/
def after (steps : Nat) (root : α) : Traversal α := (step children keep)^[steps] (start root)

/-- The stack is empty after as many steps as there are nodes, and not before, and then these were
kept. -/
def Ends (root : α) (nodes : Nat) (kept : List α) : Prop :=
  ∀ steps,
    ((after children keep steps root).stack = [] ↔ nodes ≤ steps) ∧
    (nodes ≤ steps → (after children keep steps root).found = kept)

/-- The part of a recursive walk that is still to come. -/
def pending (walk : α → List α) (state : Traversal α) : List α := state.stack.reverse.flatMap walk

variable {children} {walk : α → List α}

theorem pending_eq_nil_iff (hwalk : ∀ node, walk node = node :: (children node).flatMap walk)
    (state : Traversal α) : state.pending walk = [] ↔ state.stack = [] := by
  rw [pending, List.flatMap_eq_nil_iff]
  constructor
  · intro h
    refine List.eq_nil_iff_forall_not_mem.mpr fun node hnode => ?_
    have hnil := h node (List.mem_reverse.mpr hnode)
    rw [hwalk] at hnil
    cases hnil
  · intro h node hnode
    rw [h] at hnode
    exact absurd hnode List.not_mem_nil

/-- A step visits the first node of what is still to come, and nothing else changes. -/
theorem step_eq (hwalk : ∀ node, walk node = node :: (children node).flatMap walk)
    (state : Traversal α) :
    (step children keep state).pending walk = (state.pending walk).tail ∧
      (step children keep state).found =
        state.found ++ ((state.pending walk).take 1).filter keep := by
  obtain ⟨stack, found⟩ := state
  rcases List.eq_nil_or_concat stack with rfl | ⟨rest, node, rfl⟩
  · exact ⟨rfl, (List.append_nil found).symm⟩
  · have hpending : pending walk ⟨rest.concat node, found⟩ =
        node :: ((children node).flatMap walk ++ rest.reverse.flatMap walk) := by
      rw [pending, List.concat_eq_append, List.reverse_append, List.reverse_singleton,
        List.singleton_append, List.flatMap_cons, hwalk, List.cons_append]
    have hlast : (rest.concat node).getLast? = some node := by
      rw [List.concat_eq_append, List.getLast?_concat]
    have hfront : (rest.concat node).dropLast = rest := by
      rw [List.concat_eq_append, List.dropLast_concat]
    rw [hpending, step]
    simp only [hlast, hfront]
    constructor
    · rw [pending, List.reverse_append, List.reverse_reverse, List.flatMap_append, List.tail_cons]
    · by_cases hkeep : keep node = true
      · rw [if_pos hkeep, List.take_succ_cons, List.take_zero, List.filter_cons_of_pos hkeep,
          List.filter_nil]
      · rw [if_neg hkeep, List.take_succ_cons, List.take_zero, List.filter_cons_of_neg hkeep,
          List.filter_nil, List.append_nil]

/-- After `n` steps the first `n` nodes of the walk have been visited. -/
theorem iterate_step (hwalk : ∀ node, walk node = node :: (children node).flatMap walk)
    (steps : Nat) (state : Traversal α) :
    ((step children keep)^[steps] state).pending walk = (state.pending walk).drop steps ∧
      ((step children keep)^[steps] state).found =
        state.found ++ ((state.pending walk).take steps).filter keep := by
  induction steps with
  | zero => exact ⟨rfl, (List.append_nil state.found).symm⟩
  | succ steps ih =>
    obtain ⟨hpending, hfound⟩ := ih
    obtain ⟨hnext, hkept⟩ := step_eq keep hwalk ((step children keep)^[steps] state)
    rw [Function.iterate_succ_apply', hnext, hkept, hpending, hfound, List.tail_drop]
    refine ⟨rfl, ?_⟩
    rw [List.append_assoc, ← List.filter_append, ← List.take_add]

theorem pending_start (root : α) : (start root).pending walk = walk root := by
  rw [pending, start, List.reverse_singleton, List.flatMap_singleton]

/-- A traversal finds what is to be kept of a walk, in one step for each node of it. -/
theorem ends_of_walk (hwalk : ∀ node, walk node = node :: (children node).flatMap walk) (root : α) :
    Ends children keep root (walk root).length ((walk root).filter keep) := by
  intro steps
  obtain ⟨hpending, hfound⟩ := iterate_step keep hwalk steps (start root)
  rw [pending_start] at hpending hfound
  constructor
  · rw [← pending_eq_nil_iff hwalk, after, hpending, List.drop_eq_nil_iff]
  · intro hsteps
    rw [after, hfound, List.take_of_length_le hsteps]
    rfl

end Traversal

/-! ## Spots -/

/-- A site and the way to it: which child is taken on each level. -/
structure Spot where
  way : List Nat
  site : Site

namespace Spot

/-- The spot where a traversal starts. -/
def top (site : Site) : Spot := ⟨[], site⟩

/-- The spots of the children. -/
def children (spot : Spot) : List Spot :=
  spot.site.children.zipIdx.map fun (child, index) => ⟨spot.way ++ [index], child⟩

mutual

/-- The spots at and below a part in the order of the recursive walk: the part comes before its
children, and children come from left to right. -/
def walk (way : List Nat) (parent : Option Outline) : Outline → List Spot
  | .node kind field span children =>
    ⟨way, parent, .node kind field span children⟩ ::
      walkAll way 0 (some (.node kind field span children)) children

/-- The spots at and below the children from the given number on. -/
def walkAll (way : List Nat) (index : Nat) (parent : Option Outline) : List Outline → List Spot
  | [] => []
  | outline :: rest => walk (way ++ [index]) parent outline ++ walkAll way (index + 1) parent rest

end

end Spot

namespace Site

/-- The spots at and below a site. -/
def spots (root : Site) : List Spot := Spot.walk [] root.parent root.node

/-- The site at the end of a way, if the way does not leave what is below the given site. -/
def at? (site : Site) : List Nat → Option Site
  | [] => some site
  | index :: way => site.children[index]?.bind fun child => child.at? way

theorem at?_cons_eq_some_iff {site other : Site} {index : Nat} {way : List Nat} :
    site.at? (index :: way) = some other ↔
      ∃ child, site.node.children[index]? = some child ∧
        at? ⟨some site.node, child⟩ way = some other := by
  rw [at?, children, List.getElem?_map, Option.bind_map, Option.bind_eq_some_iff]
  rfl

end Site

namespace Spot

/-! ## The walk over spots -/

theorem walk_eq (way : List Nat) (parent : Option Outline) (outline : Outline) :
    walk way parent outline =
      ⟨way, parent, outline⟩ :: walkAll way 0 (some outline) outline.children := by
  cases outline
  rw [walk, Outline.children]

theorem walkAll_eq (way : List Nat) (index : Nat) (parent : Option Outline)
    (outlines : List Outline) :
    walkAll way index parent outlines =
      (outlines.zipIdx index).flatMap fun (outline, index) =>
        walk (way ++ [index]) parent outline := by
  induction outlines generalizing index with
  | nil => rw [walkAll, List.zipIdx_nil, List.flatMap_nil]
  | cons outline rest ih => rw [walkAll, List.zipIdx_cons, List.flatMap_cons, ih]

/-- A spot comes first, then the walks of its children. -/
theorem walk_eq_flatMap (spot : Spot) :
    walk spot.way spot.site.parent spot.site.node =
      spot :: spot.children.flatMap fun child =>
        walk child.way child.site.parent child.site.node := by
  rw [walk_eq, walkAll_eq, children, Site.children, List.zipIdx_map, List.map_map,
    List.flatMap_map]
  rfl

mutual

theorem map_site_walk (way : List Nat) (parent : Option Outline) :
    ∀ outline, (walk way parent outline).map site = Site.preorder parent outline
  | .node kind field span children => by
    rw [walk, Site.preorder, List.map_cons, map_site_walkAll]

theorem map_site_walkAll (way : List Nat) (index : Nat) (parent : Option Outline) :
    ∀ outlines, (walkAll way index parent outlines).map site = Site.preorderAll parent outlines
  | [] => by rw [walkAll, Site.preorderAll, List.map_nil]
  | outline :: rest => by
    rw [walkAll, Site.preorderAll, List.map_append, map_site_walk, map_site_walkAll]

end

mutual

/-- The spots of a walk are those at the ends of the ways from where it starts. -/
theorem mem_walk_iff {spot : Spot} (way : List Nat) (parent : Option Outline) :
    ∀ outline, spot ∈ walk way parent outline ↔
      ∃ below, spot.way = way ++ below ∧ Site.at? ⟨parent, outline⟩ below = some spot.site
  | .node kind field span children => by
    rw [walk, List.mem_cons, mem_walkAll_iff]
    constructor
    · rintro (rfl | ⟨number, child, below, hchild, hway, hsite⟩)
      · exact ⟨[], (List.append_nil way).symm, rfl⟩
      · rw [Nat.zero_add] at hway
        exact ⟨number :: below, hway, Site.at?_cons_eq_some_iff.mpr ⟨child, hchild, hsite⟩⟩
    · rintro ⟨below, hway, hsite⟩
      cases below with
      | nil =>
        obtain ⟨ownWay, site⟩ := spot
        rw [List.append_nil] at hway
        cases hway
        cases hsite
        exact .inl rfl
      | cons number below =>
        obtain ⟨child, hchild, hsite⟩ := Site.at?_cons_eq_some_iff.mp hsite
        rw [← Nat.zero_add number] at hway
        exact .inr ⟨number, child, below, hchild, hway, hsite⟩

theorem mem_walkAll_iff {spot : Spot} (way : List Nat) (index : Nat) (parent : Option Outline) :
    ∀ outlines, spot ∈ walkAll way index parent outlines ↔
      ∃ (number : Nat) (child : Outline) (below : List Nat), outlines[number]? = some child ∧
        spot.way = way ++ (index + number) :: below ∧
        Site.at? ⟨parent, child⟩ below = some spot.site
  | [] => by
    rw [walkAll]
    constructor
    · intro h
      exact absurd h List.not_mem_nil
    · rintro ⟨number, child, below, hchild, -⟩
      cases hchild
  | outline :: rest => by
    rw [walkAll, List.mem_append, mem_walk_iff, mem_walkAll_iff]
    constructor
    · rintro (⟨below, hway, hsite⟩ | ⟨number, child, below, hchild, hway, hsite⟩)
      · rw [List.append_assoc] at hway
        exact ⟨0, outline, below, rfl, hway, hsite⟩
      · rw [Nat.add_assoc, Nat.add_comm 1] at hway
        exact ⟨number + 1, child, below, hchild, hway, hsite⟩
    · rintro ⟨number, child, below, hchild, hway, hsite⟩
      cases number with
      | zero =>
        cases hchild
        refine .inl ⟨below, ?_, hsite⟩
        rw [hway, List.append_assoc]
        rfl
      | succ number =>
        refine .inr ⟨number, child, below, hchild, ?_, hsite⟩
        rw [hway, Nat.add_assoc, Nat.add_comm 1]

end

mutual

/-- A spot comes before those below it, and what is below a child before the next child. -/
theorem pairwise_walk (way : List Nat) (parent : Option Outline) :
    ∀ outline, (walk way parent outline).Pairwise fun a b => a.way < b.way
  | .node kind field span children => by
    rw [walk, List.pairwise_cons]
    refine ⟨fun spot hspot => ?_, pairwise_walkAll way 0 _ children⟩
    obtain ⟨number, -, below, -, hway, -⟩ := (mem_walkAll_iff way 0 _ children).mp hspot
    have hlonger : way ++ [] < way ++ (0 + number) :: below :=
      List.append_left_lt (List.nil_lt_cons _ below)
    rwa [List.append_nil, ← hway] at hlonger

theorem pairwise_walkAll (way : List Nat) (index : Nat) (parent : Option Outline) :
    ∀ outlines, (walkAll way index parent outlines).Pairwise fun a b => a.way < b.way
  | [] => by
    rw [walkAll]
    exact List.Pairwise.nil
  | outline :: rest => by
    rw [walkAll, List.pairwise_append]
    refine ⟨pairwise_walk _ parent outline, pairwise_walkAll way (index + 1) parent rest, ?_⟩
    intro a ha b hb
    obtain ⟨below, hway, -⟩ := (mem_walk_iff _ parent outline).mp ha
    obtain ⟨number, -, below', -, hway', -⟩ := (mem_walkAll_iff way _ parent rest).mp hb
    rw [hway, hway', List.append_assoc, List.singleton_append]
    exact List.append_left_lt (List.cons_lt_cons_iff.mpr (.inl (by omega)))

end

end Spot

namespace Site

/-! ## What a traversal finds -/

mutual

theorem length_preorder (parent : Option Outline) :
    ∀ outline, (preorder parent outline).length = outline.count
  | .node kind field span children => by
    rw [preorder, Outline.count, List.length_cons, length_preorderAll]

theorem length_preorderAll (parent : Option Outline) :
    ∀ outlines, (preorderAll parent outlines).length = Outline.countAll outlines
  | [] => by rw [preorderAll, Outline.countAll, List.length_nil]
  | outline :: rest => by
    rw [preorderAll, Outline.countAll, List.length_append, length_preorder, length_preorderAll]

end

theorem map_site_spots (root : Site) :
    root.spots.map Spot.site = preorder root.parent root.node :=
  Spot.map_site_walk [] root.parent root.node

theorem length_spots (root : Site) : root.spots.length = root.node.count := by
  rw [← length_preorder root.parent, ← map_site_spots, List.length_map]

theorem mem_spots_iff {root : Site} {spot : Spot} :
    spot ∈ root.spots ↔ root.at? spot.way = some spot.site := by
  rw [spots, Spot.mem_walk_iff]
  constructor
  · rintro ⟨below, hway, hsite⟩
    rw [hway]
    exact hsite
  · intro hsite
    exact ⟨spot.way, rfl, hsite⟩

theorem preorder_eq_flatMap (site : Site) :
    preorder site.parent site.node =
      site :: site.children.flatMap fun child => preorder child.parent child.node := by
  rw [preorder_eq, flatMap_children]

/-- A traversal that starts at any site finds what is to be kept at and below this site. Each spot
there is visited once: they come in the order of their ways, so a part comes before those within it
and what is within a part before the next part. The stack is empty after as many steps as there are
spots, and not before. This holds for a choice by spots, which tells apart even parts that look the
same, and for a choice by sites. -/
theorem collect_documentOrder (root : Site) :
    root.spots.Pairwise (fun a b => a.way < b.way) ∧
    (∀ spot, spot ∈ root.spots ↔ root.at? spot.way = some spot.site) ∧
    root.spots.map Spot.site = preorder root.parent root.node ∧
    (∀ keep : Spot → Bool,
      Traversal.Ends Spot.children keep (Spot.top root) root.node.count
        (root.spots.filter keep)) ∧
    ∀ keep : Site → Bool,
      Traversal.Ends children keep root root.node.count (collect keep [root]) ∧
      collect keep [root] =
        (root.spots.filter fun spot => keep spot.site).map Spot.site := by
  have hcollect (keep : Site → Bool) :
      collect keep [root] = (preorder root.parent root.node).filter keep := by
    rw [collect_eq_filter, List.flatMap_singleton]
  refine ⟨Spot.pairwise_walk [] root.parent root.node, fun spot => mem_spots_iff,
    map_site_spots root, fun keep => ?_, fun keep => ⟨?_, ?_⟩⟩
  · have hends := Traversal.ends_of_walk keep Spot.walk_eq_flatMap (Spot.top root)
    rwa [← length_spots root]
  · have hends := Traversal.ends_of_walk keep preorder_eq_flatMap root
    rwa [length_preorder, ← hcollect] at hends
  · rw [hcollect, ← map_site_spots, List.filter_map]
    rfl

/-- A function within another one, and one behind both. -/
example :
    let inner : Outline := .node "function_declaration" none ⟨17, 32, 1, 1⟩ []
    let outer : Outline := .node "function_declaration" none ⟨0, 34, 0, 2⟩ [inner]
    let next : Outline := .node "function_declaration" none ⟨35, 50, 3, 3⟩ []
    (root (.node "program" none ⟨0, 51, 0, 4⟩ [outer, next])).spots.map Spot.way =
      [[], [0], [0, 0], [1]] := rfl

end Site

end CodeSearch
