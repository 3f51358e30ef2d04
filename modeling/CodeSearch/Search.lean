import CodeSearch.Embedding.Provider
import CodeSearch.Store.ChunkStore

/-!
# Searching by similarity

A search embeds its query, takes the nearest records of a store as candidates, and keeps those
whose cosine with the query reaches a threshold, best first.

- `Hit`: a record and its similarity to the query.
- `hits`: the hits among a list of candidates. Equally similar ones keep the order in which they
  came, and a similarity that is not a number never reaches a threshold.
- `search`: a whole search. The limit bounds the candidates, not the hits. `search_eq_ok` and
  `search_eq_error` say how it ends.
-/

namespace CodeSearch

/-- A record that was found, and its similarity to the query. -/
structure Hit where
  record : Record
  similarity : Single
  deriving DecidableEq, Repr, Inhabited

namespace Hit

/-- The record with its similarity to the query vector. -/
def of (query : Vector) (record : Record) : Hit :=
  { record, similarity := Vector.cosine query record.embedding }

/-- The hit reaches the threshold. -/
def reaches (threshold : Single) (hit : Hit) : Bool := threshold.le hit.similarity

/-- The hit may stand before another one: it is at least as similar to the query. -/
def before (hit other : Hit) : Bool := other.similarity.rank ≤ hit.similarity.rank

theorem before_trans (a b c : Hit) (hab : a.before b = true) (hbc : b.before c = true) :
    a.before c = true := by
  simp only [before, decide_eq_true_eq] at *
  omega

theorem before_total (a b : Hit) : (a.before b || b.before a) = true := by
  simp only [before, Bool.or_eq_true, decide_eq_true_eq]
  omega

end Hit

/-- The candidates that reach the threshold, best first. -/
def hits (query : Vector) (threshold : Single) (candidates : List Record) : List Hit :=
  ((candidates.map (Hit.of query)).filter (Hit.reaches threshold)).mergeSort Hit.before

/-- The hits are the candidates that reach the threshold, in another order. -/
theorem hits_perm (query : Vector) (threshold : Single) (candidates : List Record) :
    (hits query threshold candidates).Perm
      ((candidates.map (Hit.of query)).filter (Hit.reaches threshold)) :=
  List.mergeSort_perm _ _

/-- Searches a store, given a provider for the vector of the query. The state of the provider after
the search is given as well. -/
def search {ε σ τ : Type} (store : ChunkStore ε σ) (provider : Provider τ) (query : String)
    (limit : Nat) (threshold : Single) (content : σ) (state : τ) : Except ε (List Hit) × τ :=
  let (vector, state) := provider.embedOrZero query state
  ((store.nearest vector limit content).map (hits vector threshold), state)

section

variable {ε σ τ : Type} {store : ChunkStore ε σ} {provider : Provider τ} {query : String}
  {limit : Nat} {content : σ} {state : τ}

/-- What is found comes from the candidates for the vector of the query. -/
theorem search_fst (store : ChunkStore ε σ) (provider : Provider τ) (query : String) (limit : Nat)
    (threshold : Single) (content : σ) (state : τ) :
    (search store provider query limit threshold content state).1 =
      (store.nearest (provider.embedOrZero query state).1 limit content).map
        (hits (provider.embedOrZero query state).1 threshold) := rfl

/-- A search gives the hits among the candidates of its store. -/
theorem search_eq_ok {candidates : List Record}
    (h : store.nearest (provider.embedOrZero query state).1 limit content = .ok candidates)
    (threshold : Single) :
    (search store provider query limit threshold content state).1 =
      .ok (hits (provider.embedOrZero query state).1 threshold candidates) := by
  rw [search_fst, h]
  rfl

/-- A search fails as its store does. -/
theorem search_eq_error {error : ε}
    (h : store.nearest (provider.embedOrZero query state).1 limit content = .error error)
    (threshold : Single) :
    (search store provider query limit threshold content state).1 = .error error := by
  rw [search_fst, h]
  rfl

end

end CodeSearch
