import CodeSearch.Proofs.Embedding.Dimensions
import CodeSearch.Proofs.Sorting.Stable
import Mathlib.Data.List.Nodup

/-!
# Batches of vectors

A service answers a batch of texts with items in any order. The items are sorted by their indices
before anything is taken from them, so their order matters only where two of them have the same
index, and an index that is the position of a text leads to this text.

- `Service.vectorsOfItems_eq_ok_iff`: which items are accepted, and what is taken from them.
- `Service.sortItems_of_perm`: items with different indices may come in any order.
- `Service.getElem?_sortItems`: items whose indices are positions stand at these positions.
- `Service.Answers`: the service answers a batch with these items; `Service.embedBatch_of_answers`.
- `Service.embedBatch_vectors`: the vectors of a batch.
-/

namespace CodeSearch.Service

variable {count dimensions : Nat} {items other : List Item} {vectors : List Vector}

/-! ## What is accepted -/

theorem vectorOfItem_of_length {item : Item} (h : item.embedding.length = dimensions) :
    vectorOfItem dimensions item = .ok item.embedding := if_pos h

theorem mapM_vectorOfItem_of_lengths (h : ∀ item ∈ items, item.embedding.length = dimensions) :
    items.mapM (vectorOfItem dimensions) = .ok (items.map Item.embedding) := by
  induction items with
  | nil => rfl
  | cons item items ih =>
    obtain ⟨hitem, hitems⟩ := List.forall_mem_cons.mp h
    rw [List.mapM_cons, vectorOfItem_of_length hitem, ih hitems]
    rfl

theorem mem_sortItems {item : Item} : item ∈ sortItems items ↔ item ∈ items :=
  List.mem_mergeSort

/-- Items are accepted if there are as many as texts and all vectors have the right length. All of
their vectors are taken, in the order of the indices. -/
theorem vectorsOfItems_eq_ok_iff :
    vectorsOfItems count dimensions items = .ok vectors ↔
      items.length = count ∧ (∀ item ∈ items, item.embedding.length = dimensions) ∧
        vectors = (sortItems items).map Item.embedding := by
  constructor
  · intro h
    obtain ⟨hcount, hvectors, hlengths⟩ := vectorsOfItems_eq_ok h
    refine ⟨hcount, fun item hitem => hlengths _ ?_, hvectors⟩
    rw [hvectors]
    exact List.mem_map_of_mem (mem_sortItems.mpr hitem)
  · rintro ⟨hcount, hlengths, rfl⟩
    rw [vectorsOfItems, if_neg (not_not.mpr hcount)]
    exact mapM_vectorOfItem_of_lengths fun item hitem => hlengths item (mem_sortItems.mp hitem)

/-! ## The order of items -/

/-- Items are sorted by an order in which items with the same index tie. -/
theorem isOrder_index : Sorting.IsOrder fun a b : Item => decide (a.index ≤ b.index) where
  trans := by
    intro a b c hab hbc
    rw [decide_eq_true_eq] at hab hbc ⊢
    exact UInt64.le_trans hab hbc
  total := by
    intro a b
    rw [Bool.or_eq_true, decide_eq_true_eq, decide_eq_true_eq]
    exact UInt64.le_total a.index b.index

/-- Items with different indices may come in any order. -/
theorem sortItems_of_perm (hdistinct : (items.map Item.index).Nodup) (h : other.Perm items) :
    sortItems other = sortItems items := by
  have hperm : (sortItems other).Perm (sortItems items) :=
    (List.mergeSort_perm other _).trans (h.trans (List.mergeSort_perm items _).symm)
  refine List.Perm.eq_of_pairwise ?_ (Sorting.sorted_mergeSort isOrder_index other)
    (Sorting.sorted_mergeSort isOrder_index items) hperm
  -- Two items that may stand on either side of each other have one index, and so are one.
  intro a b ha hb hab hba
  rw [decide_eq_true_eq] at hab hba
  exact List.inj_on_of_nodup_map hdistinct (h.mem_iff.mp (mem_sortItems.mp ha))
    (mem_sortItems.mp hb) (UInt64.le_antisymm hab hba)

/-- If the indices are the numbers below the number of items, then they are sorted to these. -/
theorem map_index_sortItems
    (h : (items.map fun item => item.index.toNat).Perm (List.range count)) :
    (sortItems items).map (fun item => item.index.toNat) = List.range count := by
  have hperm : ((sortItems items).map fun item => item.index.toNat).Perm (List.range count) :=
    ((List.mergeSort_perm items _).map _).trans h
  have hsorted : ((sortItems items).map fun item => item.index.toNat).Pairwise (· ≤ ·) := by
    rw [List.pairwise_map]
    refine (Sorting.sorted_mergeSort isOrder_index items).imp fun hab => ?_
    exact UInt64.le_iff_toNat_le.mp (of_decide_eq_true hab)
  exact List.Perm.eq_of_pairwise (fun _ _ _ _ => Nat.le_antisymm) hsorted List.pairwise_le_range
    hperm

/-- Then every item is sorted to the position that is its index. -/
theorem getElem?_sortItems
    (h : (items.map fun item => item.index.toNat).Perm (List.range count)) {item : Item}
    (hitem : item ∈ items) : (sortItems items)[item.index.toNat]? = some item := by
  obtain ⟨position, hposition⟩ := List.mem_iff_getElem?.mp (mem_sortItems.mpr hitem)
  have hindex := congrArg (fun indices => indices[position]?) (map_index_sortItems h)
  rw [List.getElem?_map, hposition, Option.map_some] at hindex
  obtain ⟨hlt, heq⟩ := List.getElem?_eq_some_iff.mp hindex.symm
  rw [List.getElem_range] at heq
  rw [← heq, hposition]

/-! ## Batches -/

/-- The exchange for a batch of texts ends with a reply that holds these items. -/
structure Answers {τ : Type} (service : Service) (transport : Transport τ) (texts : List String)
    (state : τ) (items : List Item) : Prop where
  nonempty : texts ≠ []
  exchange : ∃ request reply, service.request? texts = some request ∧
    (transport request state).1 = some reply ∧ 200 ≤ reply.status ∧ reply.status < 300 ∧
    (Json.ofBytes? reply.content).bind itemsOfJson? = some items

theorem embedBatch_of_answers {τ : Type} {service : Service} {transport : Transport τ}
    {texts : List String} {state : τ} (h : service.Answers transport texts state items) :
    (service.embedBatch transport texts state).1 =
      vectorsOfItems texts.length service.dimensions items := by
  obtain ⟨request, reply, hrequest, hreply, hlow, hhigh, hitems⟩ := h.exchange
  have hfinal : reply.isFinal = true := by
    rw [Reply.isFinal, Bool.or_eq_true, Bool.and_eq_true, decide_eq_true_eq, decide_eq_true_eq,
      decide_eq_true_eq]
    omega
  have hvectors : service.vectorsOfReply texts.length reply =
      vectorsOfItems texts.length service.dimensions items := by
    rw [vectorsOfReply, hfinal, if_neg (by decide), if_neg (by simp; omega), hitems]
  obtain ⟨after, hexchange⟩ : ∃ after, transport request state = (some reply, after) :=
    ⟨_, Prod.ext hreply rfl⟩
  rw [embedBatch, if_neg (by simpa using h.nonempty), hrequest]
  dsimp only
  rw [hexchange]
  exact hvectors

/-- A batch that the service answers with some items has vectors if there are as many items as
texts and all their vectors have the right length, and then it has the vectors of all items; else
there is an error and no vector. Items with different indices may come in any order, and if the
indices are the positions of the texts, then each text has the vector of the item with its
position. -/
theorem embedBatch_vectors (service : Service) (texts : List String) (items : List Item) :
    let handled := vectorsOfItems texts.length service.dimensions
    (∀ {τ : Type} (transport : Transport τ) (state : τ),
      service.Answers transport texts state items →
        (service.embedBatch transport texts state).1 = handled items) ∧
    ((∃ vectors, handled items = .ok vectors) ↔
      items.length = texts.length ∧
        ∀ item ∈ items, item.embedding.length = service.dimensions) ∧
    (∀ vectors, handled items = .ok vectors →
      vectors.length = texts.length ∧ vectors.Perm (items.map Item.embedding)) ∧
    ((items.map Item.index).Nodup → ∀ other, other.Perm items → handled other = handled items) ∧
    ((items.map fun item => item.index.toNat).Perm (List.range texts.length) →
      ∀ vectors, handled items = .ok vectors →
        ∀ item ∈ items, vectors[item.index.toNat]? = some item.embedding) := by
  intro handled
  refine ⟨fun transport state h => embedBatch_of_answers h, ?accepted, ?complete, ?order,
    ?positions⟩
  case accepted =>
    constructor
    · rintro ⟨vectors, h⟩
      obtain ⟨hcount, hlengths, -⟩ := vectorsOfItems_eq_ok_iff.mp h
      exact ⟨hcount, hlengths⟩
    · rintro ⟨hcount, hlengths⟩
      exact ⟨_, vectorsOfItems_eq_ok_iff.mpr ⟨hcount, hlengths, rfl⟩⟩
  case complete =>
    intro vectors h
    obtain ⟨hcount, -, rfl⟩ := vectorsOfItems_eq_ok_iff.mp h
    refine ⟨?_, (List.mergeSort_perm items _).map _⟩
    rw [List.length_map, sortItems, List.length_mergeSort, hcount]
  case order =>
    intro hdistinct other hperm
    show vectorsOfItems _ _ other = vectorsOfItems _ _ items
    rw [vectorsOfItems, vectorsOfItems, hperm.length_eq, sortItems_of_perm hdistinct hperm]
  case positions =>
    intro hpositions vectors h item hitem
    obtain ⟨-, -, rfl⟩ := vectorsOfItems_eq_ok_iff.mp h
    rw [List.getElem?_map, getElem?_sortItems hpositions hitem, Option.map_some]

/-- Two items in the wrong order. -/
theorem embedBatch_vectors_of_two :
    let service : Service := ⟨"key", "http://localhost", "model", 1⟩
    let items : List Item := [⟨1, [Single.ofInt 1]⟩, ⟨0, [Single.zero]⟩]
    let body := "\x7b\"data\": [\x7b\"index\": 1, \"embedding\": [1]\x7d, " ++
      "\x7b\"index\": 0, \"embedding\": [0]\x7d]\x7d"
    let transport : Transport Unit :=
      fun _ state => (some ⟨200, Text.Utf8.encode body.toList⟩, state)
    service.Answers transport ["a", "b"] () items ∧
      (items.map fun item => item.index.toNat).Perm (List.range 2) ∧
      ∃ vectors, (service.embedBatch transport ["a", "b"] ()).1 = .ok vectors ∧
        vectors[0]? = some [Single.zero] ∧ vectors[1]? = some [Single.ofInt 1] := by
  intro service items body transport
  obtain ⟨request, hrequest⟩ : ∃ request, service.request? ["a", "b"] = some request :=
    Option.isSome_iff_exists.mp (by decide +kernel)
  have hanswers : service.Answers transport ["a", "b"] () items :=
    { nonempty := by decide
      exchange := ⟨request, _, hrequest, rfl, by decide, by decide, by decide +kernel⟩ }
  have hpositions : (items.map fun item => item.index.toNat).Perm (List.range 2) := by decide
  obtain ⟨hhandled, haccepted, -, -, hvectors⟩ := embedBatch_vectors service ["a", "b"] items
  obtain ⟨vectors, hok⟩ := haccepted.mpr ⟨rfl, by decide⟩
  have hfound := hvectors hpositions vectors hok
  exact ⟨hanswers, hpositions, vectors, (hhandled transport () hanswers).trans hok,
    hfound _ (List.mem_cons_of_mem _ List.mem_cons_self), hfound _ List.mem_cons_self⟩

end CodeSearch.Service
