import CodeSearch.Proofs.Store.VectorTable
import CodeSearch.Proofs.Vector.Bytes
import CodeSearch.Store.Handle
import Mathlib.Data.List.Nodup

/-!
# Two tables as one list of records

The rows of a chunk table and the slots of its vector table belong together by their numbers. Seen
together they are a list of numbered records: the rows tell their order, the slots their vectors.

- `Represents`: the two tables hold a list of numbered records. Numbers increase along the list, so
  a number belongs to one record only.
- `WritePolicy.put`: storing a record, on a plain list.
- `Represents.storeIn`: storing a record in the tables is `put` on the list.
- `Represents.map_recordOf`: reading rows back gives the records, vectors included.
-/

namespace CodeSearch

/-- A list of records after a record was stored: it comes last, and under `upsert` no other record
keeps its identifier. -/
def WritePolicy.put (policy : WritePolicy) (record : Record) (records : List Record) :
    List Record :=
  match policy with
  | .append => records ++ [record]
  | .upsert => records.filter (fun other => other.id ≠ record.id) ++ [record]

/-- A record and its number. -/
abbrev Numbered := Nat × Record

namespace Numbered

/-- The row of a numbered record. -/
def row (numbered : Numbered) : Row := ⟨numbered.1, numbered.2.toEntry⟩

/-- The slot of a numbered record. -/
def slot (numbered : Numbered) : Slot := ⟨numbered.1, Vector.encode numbered.2.embedding⟩

end Numbered

/-- A chunk table and a vector table hold a list of numbered records. -/
structure Represents (chunks : ChunkTable) (vectors : VectorTable) (numbered : List Numbered) :
    Prop where
  rows : chunks.rows = numbered.map Numbered.row
  slots : vectors.slots.Perm (numbered.map Numbered.slot)
  increasing : (numbered.map Prod.fst).Pairwise (· < ·)
  given : ∀ pair ∈ numbered, pair.1 ≤ chunks.lastNumber

namespace Represents

variable {chunks : ChunkTable} {vectors : VectorTable} {numbered : List Numbered}

theorem empty (dimensions : Nat) : Represents {} { dimensions } [] where
  rows := rfl
  slots := .nil
  increasing := .nil
  given := fun _ h => absurd h List.not_mem_nil

/-- A number belongs to one record only. -/
theorem eq_of_fst_eq (h : Represents chunks vectors numbered) {a b : Numbered}
    (ha : a ∈ numbered) (hb : b ∈ numbered) (heq : a.1 = b.1) : a = b :=
  List.inj_on_of_nodup_map (h.increasing.imp Nat.ne_of_lt) ha hb heq

/-! ## Changes -/

/-- A new record goes to the end of the list, under a number above all others. -/
theorem add (h : Represents chunks vectors numbered) (record : Record) :
    Represents (chunks.add record.toEntry)
      (vectors.add chunks.nextNumber (Vector.encode record.embedding))
      (numbered ++ [(chunks.nextNumber, record)]) where
  rows := by
    rw [ChunkTable.rows_add, h.rows, List.map_append]
    rfl
  slots := by
    obtain ⟨before, after, hslots, hadd⟩ :=
      vectors.slots_add chunks.nextNumber (Vector.encode record.embedding)
    rw [hadd, List.map_append]
    -- The slot may be anywhere among the others; the order of the slots does not count.
    refine List.perm_middle.trans ?_
    rw [← hslots]
    exact (h.slots.cons _).trans (List.perm_append_singleton _ _).symm
  increasing := by
    rw [List.map_append, List.pairwise_append]
    refine ⟨h.increasing, List.pairwise_singleton _ _, ?_⟩
    intro a ha b hb
    obtain ⟨pair, hpair, rfl⟩ := List.mem_map.mp ha
    have := h.given pair hpair
    rw [List.map_singleton, List.mem_singleton] at hb
    subst hb
    exact Nat.lt_succ_of_le this
  given := by
    intro pair hpair
    rcases List.mem_append.mp hpair with hpair | hpair
    · exact Nat.le_succ_of_le (h.given pair hpair)
    · rw [List.mem_singleton] at hpair
      subst hpair
      exact Nat.le_refl _

/-- The numbers that are looked up for an identifier are those of its records. -/
theorem contains_rowsOf (h : Represents chunks vectors numbered) (id : String) {pair : Numbered}
    (hpair : pair ∈ numbered) :
    ((chunks.rowsOf id).map Row.number).contains pair.1 = (pair.2.id == id) := by
  rw [Bool.eq_iff_iff, List.contains_iff_mem, ChunkTable.rowsOf, h.rows]
  constructor
  · intro hmem
    obtain ⟨row, hrow, hnumber⟩ := List.mem_map.mp hmem
    obtain ⟨hrow, hid⟩ := List.mem_filter.mp hrow
    obtain ⟨other, hother, rfl⟩ := List.mem_map.mp hrow
    -- The row that was found with this number is the row of the record itself.
    rwa [← h.eq_of_fst_eq hother hpair hnumber]
  · intro hid
    exact List.mem_map.mpr
      ⟨pair.row, List.mem_filter.mpr ⟨List.mem_map_of_mem hpair, hid⟩, rfl⟩

/-- Removing an identifier removes its records, in both tables. -/
theorem removeId (h : Represents chunks vectors numbered) (id : String) :
    Represents (chunks.removeId id) (vectors.remove ((chunks.rowsOf id).map Row.number))
      (numbered.filter fun pair => pair.2.id ≠ id) where
  rows := by
    rw [ChunkTable.rows_removeId, h.rows, List.filter_map]
    refine congrArg _ (List.filter_congr fun pair _ => ?_)
    show (!(pair.2.id == id)) = _
    rw [beq_eq_decide, decide_not]
  slots := by
    rw [VectorTable.slots_remove]
    refine (h.slots.filter _).trans ?_
    rw [List.filter_map]
    -- A slot goes by its number, a row by its identifier: for these records that is the same.
    refine .of_eq (congrArg _ (List.filter_congr fun pair hpair => ?_))
    show (!((chunks.rowsOf id).map Row.number).contains pair.1) = _
    rw [h.contains_rowsOf id hpair, beq_eq_decide, decide_not]
  increasing := h.increasing.sublist (List.filter_sublist.map _)
  given := fun pair hpair => h.given pair (List.mem_filter.mp hpair).1

/-- Storing a record in the tables stores it in the list. -/
theorem storeIn (h : Represents chunks vectors numbered) (policy : WritePolicy)
    (record : Record) :
    ∃ numbered',
      Represents (Handle.storeIn policy record chunks vectors).1
        (Handle.storeIn policy record chunks vectors).2 numbered' ∧
      numbered'.map Prod.snd = policy.put record (numbered.map Prod.snd) := by
  cases policy with
  | append => exact ⟨_, h.add record, by rw [List.map_append]; rfl⟩
  | upsert =>
    refine ⟨_, (h.removeId record.id).add record, ?_⟩
    rw [List.map_append, WritePolicy.put, List.filter_map]
    rfl

/-! ## Reading -/

/-- The slots of different records have different numbers. -/
theorem nodup_slots (h : Represents chunks vectors numbered) :
    (vectors.slots.map Slot.number).Nodup := by
  refine (h.slots.map _).nodup_iff.mpr ?_
  rw [List.map_map]
  exact h.increasing.imp Nat.ne_of_lt

/-- The row of a record reads back as the record. -/
theorem recordOf_row (h : Represents chunks vectors numbered) {pair : Numbered}
    (hpair : pair ∈ numbered) : Handle.recordOf vectors pair.row = pair.2 := by
  have hslot : pair.slot ∈ vectors.slots := h.slots.mem_iff.mpr (List.mem_map_of_mem hpair)
  have hbytes : vectors.bytes? pair.1 = some (Vector.encode pair.2.embedding) :=
    VectorTable.bytes?_of_mem hslot h.nodup_slots
  show ({ pair.2.toEntry with
    embedding := ((vectors.bytes? pair.1).map Vector.decode).getD [] } : Record) = pair.2
  rw [hbytes, Option.map_some, Option.getD_some, Vector.decode_encode]

/-- The rows that are chosen by their entries read back as the records that have these entries. -/
theorem map_recordOf_filter (h : Represents chunks vectors numbered) (choose : Entry → Bool) :
    (chunks.rows.filter fun row => choose row.entry).map (Handle.recordOf vectors) =
      (numbered.map Prod.snd).filter fun record => choose record.toEntry := by
  rw [h.rows, List.filter_map, List.filter_map, List.map_map]
  exact List.map_congr_left fun pair hpair => h.recordOf_row (List.mem_filter.mp hpair).1

/-- The entries of the rows are those of the records. -/
theorem map_entry (h : Represents chunks vectors numbered) :
    chunks.rows.map Row.entry = (numbered.map Prod.snd).map Record.toEntry := by
  rw [h.rows, List.map_map, List.map_map]
  rfl

end Represents

end CodeSearch
