import CodeSearch.Store.VectorTable

/-!
# The slots of a vector table

What a vector table holds is its list of slots. Adding a vector puts one slot somewhere into the
list, and removing the vectors of some rows filters it; blocks do not show.

- `slots_add`, `slots_remove`: the two changes, seen on the slots.
- `bytes?_eq`: looking up a row is looking for its slot.
-/

namespace CodeSearch

/-! ## Blocks -/

namespace Block

/-- Filling a place adds one slot and leaves the order of the others. -/
theorem slots_fill (slot : Slot) (block : Block) :
    ∃ before after, slots block = before ++ after ∧
      slots (fill slot block) = before ++ slot :: after := by
  induction block with
  | nil => exact ⟨[], [], rfl, rfl⟩
  | cons place block ih =>
    cases place with
    | none => exact ⟨[], slots block, rfl, rfl⟩
    | some other =>
      obtain ⟨before, after, hslots, hfill⟩ := ih
      refine ⟨other :: before, after, ?_, ?_⟩
      · exact congrArg (other :: ·) hslots
      · exact congrArg (other :: ·) hfill

/-- Freeing removes exactly the slots of the given rows. -/
theorem slots_free (numbers : List Nat) (block : Block) :
    slots (free numbers block) =
      (slots block).filter fun slot => !numbers.contains slot.number := by
  induction block with
  | nil => rfl
  | cons place block ih =>
    cases place with
    | none => exact ih
    | some slot =>
      show List.filterMap id ((if _ then none else some slot) :: free numbers block) =
        List.filter _ (slot :: slots block)
      rw [List.filter_cons]
      by_cases h : numbers.contains slot.number
      · rw [if_pos h, if_neg (by simpa using h)]
        exact ih
      · rw [if_neg h, if_pos (by simpa using h)]
        exact congrArg (slot :: ·) ih

/-- A block in which no place is taken has no slots. -/
theorem slots_eq_nil_of_not_any {block : Block} (h : ¬ block.any Option.isSome = true) :
    slots block = [] := by
  rw [slots, List.filterMap_eq_nil_iff]
  intro place hplace
  cases place with
  | none => rfl
  | some slot => exact absurd (List.any_eq_true.mpr ⟨_, hplace, rfl⟩) h

/-- Looking through the places is looking through the slots. -/
theorem findSome?_eq (number : Nat) (block : Block) :
    block.findSome? (VectorTable.bytesIn? number) =
      (slots block).findSome? fun slot => VectorTable.bytesIn? number (some slot) := by
  induction block with
  | nil => rfl
  | cons place block ih =>
    cases place with
    | none => exact ih
    | some slot =>
      show List.findSome? _ (some slot :: block) = List.findSome? _ (slot :: slots block)
      rw [List.findSome?_cons, List.findSome?_cons, ih]

end Block

/-! ## Tables -/

namespace VectorTable

theorem slots_addSlot (slot : Slot) (blocks : List Block) :
    ∃ before after, blocks.flatMap Block.slots = before ++ after ∧
      (addSlot slot blocks).flatMap Block.slots = before ++ slot :: after := by
  fun_induction addSlot slot blocks with
  | case1 => exact ⟨[], [], rfl, rfl⟩
  | case2 block hfull =>
    refine ⟨Block.slots block, [], ?_, ?_⟩
    · rw [List.flatMap_singleton, List.append_nil]
    · rfl
  | case3 block hfree =>
    obtain ⟨before, after, hslots, hfill⟩ := Block.slots_fill slot block
    refine ⟨before, after, ?_, ?_⟩
    · rw [List.flatMap_singleton, hslots]
    · rw [List.flatMap_singleton, hfill]
  | case4 block blocks hmore ih =>
    obtain ⟨before, after, hslots, hadd⟩ := ih
    refine ⟨Block.slots block ++ before, after, ?_, ?_⟩
    · rw [List.flatMap_cons, hslots, List.append_assoc]
    · rw [List.flatMap_cons, hadd, List.append_assoc]

/-- Adding a vector puts one slot into the list of slots. -/
theorem slots_add (table : VectorTable) (number : Nat) (bytes : List UInt8) :
    ∃ before after, table.slots = before ++ after ∧
      (table.add number bytes).slots = before ++ ⟨number, bytes⟩ :: after :=
  slots_addSlot ⟨number, bytes⟩ table.blocks

/-- Removing the vectors of some rows filters the list of slots. -/
theorem slots_remove (table : VectorTable) (numbers : List Nat) :
    (table.remove numbers).slots =
      table.slots.filter fun slot => !numbers.contains slot.number := by
  rw [slots, slots, remove]
  induction table.blocks with
  | nil => rfl
  | cons block blocks ih =>
    rw [List.map_cons, List.filter_cons, List.flatMap_cons, List.filter_append, ← ih,
      ← Block.slots_free]
    -- A block that is given up held no slot any more.
    by_cases h : (Block.free numbers block).any Option.isSome
    · rw [if_pos h, List.flatMap_cons]
    · rw [if_neg h, Block.slots_eq_nil_of_not_any h, List.nil_append]

/-- The bytes of a row are those of the first slot with its number. -/
theorem bytes?_eq (table : VectorTable) (number : Nat) :
    table.bytes? number = table.slots.findSome? fun slot => bytesIn? number (some slot) := by
  rw [bytes?, slots]
  induction table.blocks with
  | nil => rfl
  | cons block blocks ih =>
    rw [List.findSome?_cons, List.flatMap_cons, List.findSome?_append, ← ih, Block.findSome?_eq]
    cases (Block.slots block).findSome? fun slot => bytesIn? number (some slot) <;> rfl

/-- In a table whose rows have one slot each, a row has the bytes of its slot. -/
theorem bytes?_of_mem {table : VectorTable} {slot : Slot} (hmem : slot ∈ table.slots)
    (hdistinct : (table.slots.map Slot.number).Nodup) :
    table.bytes? slot.number = some slot.bytes := by
  rw [bytes?_eq]
  generalize table.slots = slots at hmem hdistinct
  induction slots with
  | nil => exact absurd hmem List.not_mem_nil
  | cons first slots ih =>
    rw [List.map_cons, List.nodup_cons] at hdistinct
    rw [List.findSome?_cons, bytesIn?]
    rcases List.mem_cons.mp hmem with rfl | hmem
    · rw [if_pos rfl]
    · have hne : first.number ≠ slot.number := fun h =>
        hdistinct.1 (h ▸ List.mem_map_of_mem hmem)
      rw [if_neg hne]
      exact ih hmem hdistinct.2

end VectorTable

end CodeSearch
