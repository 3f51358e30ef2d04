import CodeSearch.Store.Handle
import Mathlib.Algebra.BigOperators.Group.List.Lemmas
import Mathlib.Algebra.Order.Ring.Nat

/-!
# Queries on a list of records

What the queries of a table answer, as functions of a plain list of records.

- `searchRecords`: the keyword search. The empty keyword is in every record, so that it gives the
  list itself (`searchRecords_empty`).
- `recordStatistics`: the counts. Both of its columns are tallies (`isTally_tallyValues`): every
  value that occurs is there once, with the number of times it occurs.
-/

namespace CodeSearch

/-! ## Keywords -/

/-- The records whose code or name contains a keyword. -/
def searchRecords (keyword : String) (limit : Nat) (records : List Record) :
    Except StoreError (List Record) :=
  let pattern := Pattern.containing keyword.toList
  if limit = 0 then .ok []
  else if Pattern.isTooLong pattern && !records.isEmpty then .error (.database .patternTooLong)
  else .ok (Handle.takeLimit limit
    (records.filter fun record => Handle.entryMatches pattern record.toEntry))

/-- A pattern of one `%` matches every text. -/
theorem Pattern.matchTokens_anyText (text : List Char) : matchTokens [.anyText] text = true := by
  induction text with
  | nil => simp [matchTokens]
  | cons c text ih =>
    rw [matchTokens, ih, Bool.or_true]

/-- The pattern of the empty keyword matches every text. -/
theorem Pattern.matchesText_containing_nil (text : List Char) :
    matchesText (containing []) text = true := by
  have htokens : tokens (untilNul (containing [])) = [.anyText, .anyText] := rfl
  rw [matchesText, htokens]
  cases untilNul text with
  | nil => rw [matchTokens, matchTokens_anyText]
  | cons c text => rw [matchTokens, matchTokens_anyText, Bool.true_or]

theorem Handle.takeLimit_of_length_le {α : Type} {limit : Nat} {items : List α}
    (h : items.length ≤ limit) : takeLimit limit items = items := by
  rw [takeLimit, List.take_of_length_le h, ite_self]

/-- The search for the empty keyword gives the list itself, if the limit allows. -/
theorem searchRecords_empty {limit : Nat} {records : List Record} (h : records.length ≤ limit) :
    searchRecords "" limit records = .ok records := by
  have hpattern : Pattern.containing "".toList = Pattern.containing [] := rfl
  have hshort : Pattern.isTooLong (Pattern.containing []) = false := by decide
  rw [searchRecords, hpattern]
  by_cases hlimit : limit = 0
  · -- A limit of zero is enough for the empty list alone.
    have hempty : records = [] := List.eq_nil_of_length_eq_zero (by omega)
    rw [if_pos hlimit, hempty]
  · have hall : records.filter (fun record =>
        Handle.entryMatches (Pattern.containing []) record.toEntry) = records := by
      refine List.filter_eq_self.mpr fun record _ => ?_
      rw [Handle.entryMatches, Pattern.matchesText_containing_nil, Bool.true_or]
    rw [if_neg hlimit, hshort, Bool.false_and, if_neg Bool.false_ne_true, hall,
      Handle.takeLimit_of_length_le h]

/-! ## Counts -/

/-- The values of a list, each once and in increasing order, with the number of times they
occur. -/
def tallyValues (values : List String) : List (String × Nat) :=
  (values.eraseDups.mergeSort fun a b => a ≤ b).map fun value => (value, values.count value)

/-- The counts over a list of records. -/
def recordStatistics (records : List Record) : Statistics :=
  { totalChunks := records.length
    chunkTypes := tallyValues (records.map fun record => record.chunkType)
    files := tallyValues (records.map fun record => record.fileName) }

/-- A tally of a list: every value that occurs is there once, with the number of times it occurs,
so that the numbers add up to the length of the list. -/
structure IsTally (values : List String) (tally : List (String × Nat)) : Prop where
  nodup : (tally.map Prod.fst).Nodup
  mem_iff : ∀ value count, (value, count) ∈ tally ↔ value ∈ values ∧ count = values.count value
  sum : (tally.map Prod.snd).sum = values.length

theorem nodup_eraseDups (values : List String) : values.eraseDups.Nodup := by
  induction h : values.length using Nat.strongRecOn generalizing values with
  | ind length ih =>
    cases values with
    | nil => exact List.nodup_nil
    | cons value values =>
      rw [List.eraseDups_cons, List.nodup_cons]
      constructor
      · intro hmem
        have hne := (List.mem_filter.mp (List.mem_eraseDups.mp hmem)).2
        simp at hne
      · refine ih _ ?_ _ rfl
        have hle := List.length_filter_le (fun b => !b == value) values
        rw [List.length_cons] at h
        omega

theorem isTally_tallyValues (values : List String) : IsTally values (tallyValues values) := by
  have hperm : (values.eraseDups.mergeSort fun a b => a ≤ b).Perm values.eraseDups :=
    List.mergeSort_perm _ _
  have hkeys : (tallyValues values).map Prod.fst =
      values.eraseDups.mergeSort fun a b => a ≤ b := by
    rw [tallyValues, List.map_map]
    exact List.map_id _
  -- Keys and counts do not depend on the order into which the values are sorted.
  refine ⟨?_, ?_, ?_⟩
  · rw [hkeys, hperm.nodup_iff]
    exact nodup_eraseDups values
  · intro value count
    rw [tallyValues, List.mem_map]
    constructor
    · rintro ⟨other, hother, heq⟩
      obtain ⟨rfl, rfl⟩ := Prod.mk.injEq .. ▸ heq
      exact ⟨List.mem_eraseDups.mp (hperm.mem_iff.mp hother), rfl⟩
    · rintro ⟨hmem, rfl⟩
      exact ⟨value, hperm.mem_iff.mpr (List.mem_eraseDups.mpr hmem), rfl⟩
  · -- The values without repetition are those that `dedup` keeps, in another order.
    have hdedup : values.eraseDups.Perm values.dedup := by
      rw [List.perm_ext_iff_of_nodup (nodup_eraseDups values) (List.nodup_dedup values)]
      intro value
      rw [List.mem_eraseDups, List.mem_dedup]
    rw [tallyValues, List.map_map]
    rw [((hperm.trans hdedup).map _).sum_eq]
    exact List.sum_map_count_dedup_eq_length values

end CodeSearch
