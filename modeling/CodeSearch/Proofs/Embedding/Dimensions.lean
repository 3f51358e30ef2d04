import CodeSearch.CommandLine.Run
import CodeSearch.Proofs.Indexing.Filling

/-!
# The number of dimensions of a provider

All vectors of a provider have the number of dimensions that the provider was made for. The mock
makes its vectors of this length. A service may answer with anything, and so its reply is checked:
it is a batch of vectors of the right length, one for each text, or it is an error.

- `Mock.hasDimensions_provider`: the mock.
- `Service.vectorsOfItems_eq_ok`: what a batch that is accepted is made of.
- `Service.hasDimensions_provider`: the service, however requests are exchanged for replies.
- `Config.hasDimensions_of_provider?`: the provider that a configuration asks for.
-/

namespace CodeSearch

theorem Provider.HasDimensions.length_embedOrZero {τ : Type} {provider : Provider τ}
    {dimensions : Nat} (h : provider.HasDimensions dimensions) (text : String) (state : τ) :
    (provider.embedOrZero text state).1.length = dimensions := by
  rw [provider.embedOrZero_eq]
  exact h.length_vectorOr text state

/-! ## The mock -/

namespace Mock

theorem length_states (state : UInt64) (count : Nat) : (states state count).length = count := by
  induction count generalizing state with
  | zero => rfl
  | succ count ih => rw [states, List.length_cons, ih]

theorem length_normalize (elements : Vector) : (normalize elements).length = elements.length := by
  unfold normalize
  dsimp only
  split
  · exact List.length_map _
  · rfl

theorem length_vector (dimensions : Nat) (text : String) :
    (vector dimensions text).length = dimensions := by
  rw [vector, length_normalize, List.length_map, length_states]

theorem hasDimensions_provider {τ : Type} (dimensions : Nat) :
    (provider dimensions : Provider τ).HasDimensions dimensions := by
  refine Provider.hasDimensions_ofFunction ?_
  intro text answer hanswer
  cases hanswer
  exact length_vector dimensions text

end Mock

/-! ## The service -/

namespace Service

variable {dimensions count : Nat} {items : List Item} {vectors : List Vector}

theorem vectorOfItem_eq_ok {item : Item} {vector : Vector}
    (h : vectorOfItem dimensions item = .ok vector) :
    vector = item.embedding ∧ vector.length = dimensions := by
  unfold vectorOfItem at h
  split at h
  · next hlength =>
    cases h
    exact ⟨rfl, hlength⟩
  · cases h

/-- Vectors are taken from all items, or from none. -/
theorem mapM_vectorOfItem (h : items.mapM (vectorOfItem dimensions) = .ok vectors) :
    vectors = items.map Item.embedding ∧ ∀ vector ∈ vectors, vector.length = dimensions := by
  induction items generalizing vectors with
  | nil =>
    cases h
    exact ⟨rfl, fun _ hvector => absurd hvector List.not_mem_nil⟩
  | cons item items ih =>
    rw [List.mapM_cons] at h
    cases hitem : vectorOfItem dimensions item with
    | error error =>
      rw [hitem] at h
      cases h
    | ok first =>
      cases hrest : items.mapM (vectorOfItem dimensions) with
      | error error =>
        rw [hitem, hrest] at h
        cases h
      | ok rest =>
        rw [hitem, hrest] at h
        cases h
        obtain ⟨rfl, hfirst⟩ := vectorOfItem_eq_ok hitem
        obtain ⟨rfl, hlengths⟩ := ih hrest
        exact ⟨rfl, List.forall_mem_cons.mpr ⟨hfirst, hlengths⟩⟩

/-- A batch that is accepted has the vectors of its items in the order of their indices, as many as
there were texts, and all of the right length. -/
theorem vectorsOfItems_eq_ok (h : vectorsOfItems count dimensions items = .ok vectors) :
    items.length = count ∧ vectors = (sortItems items).map Item.embedding ∧
      ∀ vector ∈ vectors, vector.length = dimensions := by
  unfold vectorsOfItems at h
  split at h
  · cases h
  · next hcount => exact ⟨not_not.mp hcount, mapM_vectorOfItem h⟩

variable {service : Service}

/-- Whatever the status and the body of a reply, the vectors that are taken from it are as many as
there were texts, and all of the right length. -/
theorem vectorsOfReply_eq_ok {reply : Reply}
    (h : service.vectorsOfReply count reply = .ok vectors) :
    vectors.length = count ∧ ∀ vector ∈ vectors, vector.length = service.dimensions := by
  unfold vectorsOfReply at h
  split at h
  · cases h
  · split at h
    · cases h
    · split at h
      · cases h
      · obtain ⟨hcount, rfl, hlengths⟩ := vectorsOfItems_eq_ok h
        refine ⟨?_, hlengths⟩
        rw [List.length_map, sortItems, List.length_mergeSort, hcount]

variable {τ : Type} {transport : Transport τ} {state : τ}

/-- There are vectors for all texts of a batch, of the right length, or there is an error. -/
theorem embedBatch_eq_ok {texts : List String}
    (h : (service.embedBatch transport texts state).1 = .ok vectors) :
    vectors.length = texts.length ∧ ∀ vector ∈ vectors, vector.length = service.dimensions := by
  unfold embedBatch at h
  split at h
  · next hempty =>
    cases h
    rw [List.isEmpty_iff] at hempty
    exact ⟨congrArg List.length hempty.symm, fun _ hvector => absurd hvector List.not_mem_nil⟩
  · split at h
    · cases h
    · split at h
      · cases h
      · exact vectorsOfReply_eq_ok h

theorem length_of_embed {text : String} {vector : Vector}
    (h : (service.embed transport text state).1 = .ok vector) :
    vector.length = service.dimensions := by
  unfold embed at h
  split at h
  · cases h
  · next batch after hbatch =>
    have hvectors := embedBatch_eq_ok (congrArg Prod.fst hbatch)
    split at h
    · next hlast =>
      cases h
      exact hvectors.2 vector (List.mem_of_getLast? hlast)
    · cases h

theorem hasDimensions_provider (service : Service) (transport : Transport τ) :
    (service.provider transport).HasDimensions service.dimensions where
  own := rfl
  answers := fun _ _ _ => length_of_embed

theorem create_eq_ok {apiKey apiBase model : String}
    (h : create apiKey apiBase model dimensions = .ok service) :
    service.dimensions = dimensions := by
  unfold create at h
  split at h
  · cases h
  · cases h
    rfl

end Service

/-- The provider of a configuration has the number of dimensions that is configured. -/
theorem Config.hasDimensions_of_provider? {τ : Type} {config : Config}
    {transport : Service.Transport τ} {key : Option String} {provider : Provider τ}
    (h : config.provider? transport key = .ok provider) :
    provider.HasDimensions config.embedding.dimensions.toNat := by
  unfold provider? at h
  dsimp only at h
  split at h
  · cases h
    exact Mock.hasDimensions_provider _
  · cases hcreate : Service.create (key.getD "") config.embedding.apiBase config.embedding.model
        config.embedding.dimensions.toNat with
    | error error =>
      rw [hcreate] at h
      cases h
    | ok service =>
      rw [hcreate] at h
      cases h
      rw [← Service.create_eq_ok hcreate]
      exact service.hasDimensions_provider transport

end CodeSearch
