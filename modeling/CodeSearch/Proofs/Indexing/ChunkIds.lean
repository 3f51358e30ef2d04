import CodeSearch.ChunkId
import Mathlib.Logic.Basic

/-!
# Reading an identifier

The fields of an identifier are set apart by colons, and a path may hold colons itself. Still an
identifier can be taken apart from its end: its last field is a numeral, or it begins with a letter
and is the number of a part, behind which stands the numeral of the line; and without colons in them
the kind and the name are the two fields before the line. Whatever is left is the path.

- `Text.append_cons_inj_first`, `Text.append_cons_inj_last`: a text is cut at a separator.
- `chunkId_eq_iff_label`: when two identifiers are the same, for any fields.
- `label_eq_iff`: what the fields before the line tell of path, kind and name.
- `chunkId_eq_iff`: when two identifiers are the same, without colons in kinds and names.
-/

namespace CodeSearch

/-! ## Fields set apart by a separator -/

namespace Text

section

variable {α : Type} {separator : α} {a a' b b' : List α}

/-- A list is cut in one way only at the first separator. -/
theorem append_cons_inj_first (ha : separator ∉ a) (ha' : separator ∉ a')
    (h : a ++ separator :: b = a' ++ separator :: b') : a = a' ∧ b = b' := by
  induction a generalizing a' with
  | nil =>
    cases a' with
    | nil => exact ⟨rfl, (List.cons.inj h).2⟩
    | cons c a' =>
      obtain ⟨rfl, -⟩ := List.cons.inj h
      exact absurd List.mem_cons_self ha'
  | cons c a ih =>
    cases a' with
    | nil =>
      obtain ⟨rfl, -⟩ := List.cons.inj h
      exact absurd List.mem_cons_self ha
    | cons c' a' =>
      obtain ⟨rfl, htail⟩ := List.cons.inj h
      obtain ⟨rfl, rfl⟩ :=
        ih (List.not_mem_of_not_mem_cons ha) (List.not_mem_of_not_mem_cons ha') htail
      exact ⟨rfl, rfl⟩

/-- A list is cut in one way only at the last separator. -/
theorem append_cons_inj_last (hb : separator ∉ b) (hb' : separator ∉ b')
    (h : a ++ separator :: b = a' ++ separator :: b') : a = a' ∧ b = b' := by
  have hreverse : b.reverse ++ separator :: a.reverse = b'.reverse ++ separator :: a'.reverse := by
    have := congrArg List.reverse h
    rwa [List.reverse_append, List.reverse_append, List.reverse_cons, List.reverse_cons,
      List.append_assoc, List.append_assoc] at this
  obtain ⟨hb, ha⟩ := append_cons_inj_first (List.mem_reverse.not.mpr hb)
    (List.mem_reverse.not.mpr hb') hreverse
  exact ⟨List.reverse_inj.mp ha, List.reverse_inj.mp hb⟩

end

theorem not_mem_decimalDigits {c : Char} (h : c.isDigit = false) (n : Nat) :
    c ∉ decimalDigits n := by
  intro hmem
  rw [isDigit_of_mem_decimalDigits hmem] at h
  cases h

end Text

/-! ## The last fields -/

variable {path kind name path' kind' name' : String} {line index total line' index' total' : Nat}

/-- The field behind the line when there are several parts. -/
def partField (index : Nat) : List Char := "part_".toList ++ Text.decimalDigits index

theorem colon_not_mem_partField (index : Nat) : ':' ∉ partField index := by
  rw [partField, List.mem_append, not_or]
  exact ⟨by decide, Text.not_mem_decimalDigits rfl index⟩

/-- The last field of an identifier is the line, or the number of the part. -/
theorem toList_chunkId_of_single (h : ¬ 1 < total) :
    (chunkId path kind name line index total).toList =
      (path ++ ":" ++ kind ++ ":" ++ name).toList ++ ':' :: Text.decimalDigits line := by
  rw [chunkId, if_neg h]
  generalize path ++ ":" ++ kind ++ ":" ++ name = label
  rw [String.toList_append, String.toList_append, Text.decimal, List.append_assoc,
    String.toList_ofList, String.toList_ofList, List.singleton_append]

theorem toList_chunkId_of_split (h : 1 < total) :
    (chunkId path kind name line index total).toList =
      ((path ++ ":" ++ kind ++ ":" ++ name).toList ++ ':' :: Text.decimalDigits line) ++
        ':' :: partField index := by
  have hsingle : (chunkId path kind name line index 1).toList =
      (path ++ ":" ++ kind ++ ":" ++ name).toList ++ ':' :: Text.decimalDigits line :=
    toList_chunkId_of_single (Nat.lt_irrefl 1)
  rw [chunkId, if_neg (Nat.lt_irrefl 1)] at hsingle
  rw [chunkId, if_pos h, String.toList_append, String.toList_append, hsingle, Text.decimal,
    partField, List.append_assoc, String.toList_ofList, String.toList_ofList]
  rfl

/-- The last field tells whether a chunk has several parts. -/
theorem chunkId_ne_of_single_of_split (h : ¬ 1 < total) (h' : 1 < total') :
    chunkId path kind name line index total ≠ chunkId path' kind' name' line' index' total' := by
  intro heq
  have hlist := congrArg String.toList heq
  rw [toList_chunkId_of_single h, toList_chunkId_of_split h'] at hlist
  obtain ⟨-, hfield⟩ := Text.append_cons_inj_last (Text.not_mem_decimalDigits rfl _)
    (colon_not_mem_partField _) hlist
  -- A line has no letters.
  have hletter : 'p' ∈ Text.decimalDigits line := by
    rw [hfield]
    exact List.mem_append_left _ (by decide)
  exact Text.not_mem_decimalDigits rfl _ hletter

/-- Two identifiers are the same if the fields before the line and the line are, and both have no
number of a part or the same one. -/
theorem chunkId_eq_iff_label :
    chunkId path kind name line index total = chunkId path' kind' name' line' index' total' ↔
      path ++ ":" ++ kind ++ ":" ++ name = path' ++ ":" ++ kind' ++ ":" ++ name' ∧ line = line' ∧
        (1 < total ↔ 1 < total') ∧ (1 < total → index = index') := by
  constructor
  · intro heq
    have hlist := congrArg String.toList heq
    by_cases h : 1 < total
    · by_cases h' : 1 < total'
      · rw [toList_chunkId_of_split h, toList_chunkId_of_split h'] at hlist
        obtain ⟨hbefore, hfield⟩ := Text.append_cons_inj_last (colon_not_mem_partField _)
          (colon_not_mem_partField _) hlist
        obtain ⟨hlabel, hline⟩ := Text.append_cons_inj_last (Text.not_mem_decimalDigits rfl _)
          (Text.not_mem_decimalDigits rfl _) hbefore
        refine ⟨String.toList_inj.mp hlabel, Text.decimalDigits_inj hline, iff_of_true h h',
          fun _ => ?_⟩
        exact Text.decimalDigits_inj (List.append_cancel_left hfield)
      · exact absurd heq.symm (chunkId_ne_of_single_of_split h' h)
    · by_cases h' : 1 < total'
      · exact absurd heq (chunkId_ne_of_single_of_split h h')
      · rw [toList_chunkId_of_single h, toList_chunkId_of_single h'] at hlist
        obtain ⟨hlabel, hline⟩ := Text.append_cons_inj_last (Text.not_mem_decimalDigits rfl _)
          (Text.not_mem_decimalDigits rfl _) hlist
        exact ⟨String.toList_inj.mp hlabel, Text.decimalDigits_inj hline, iff_of_false h h',
          fun hsplit => absurd hsplit h⟩
  · rintro ⟨hlabel, rfl, hsplit, hindex⟩
    apply String.toList_inj.mp
    by_cases h : 1 < total
    · rw [toList_chunkId_of_split h, toList_chunkId_of_split (hsplit.mp h), hlabel, hindex h]
    · rw [toList_chunkId_of_single h, toList_chunkId_of_single (hsplit.not.mp h), hlabel]

/-! ## The fields before the line -/

theorem toList_label (path kind name : String) :
    (path ++ ":" ++ kind ++ ":" ++ name).toList =
      path.toList ++ ':' :: (kind.toList ++ ':' :: name.toList) := by
  have hcolon : ":".toList = [':'] := rfl
  simp only [String.toList_append, hcolon, List.append_assoc, List.cons_append, List.nil_append]

/-- Without colons in kinds and names, the fields before the line tell path, kind and name, whatever
is in the path. -/
theorem label_eq_iff (hkind : ':' ∉ kind.toList) (hname : ':' ∉ name.toList)
    (hkind' : ':' ∉ kind'.toList) (hname' : ':' ∉ name'.toList) :
    path ++ ":" ++ kind ++ ":" ++ name = path' ++ ":" ++ kind' ++ ":" ++ name' ↔
      path = path' ∧ kind = kind' ∧ name = name' := by
  constructor
  · intro h
    have hlist := congrArg String.toList h
    rw [toList_label, toList_label, ← List.cons_append, ← List.cons_append, ← List.append_assoc,
      ← List.append_assoc] at hlist
    obtain ⟨hlist, hnames⟩ := Text.append_cons_inj_last hname hname' hlist
    obtain ⟨hpaths, hkinds⟩ := Text.append_cons_inj_last hkind hkind' hlist
    exact ⟨String.toList_inj.mp hpaths, String.toList_inj.mp hkinds, String.toList_inj.mp hnames⟩
  · rintro ⟨rfl, rfl, rfl⟩
    rfl

/-- An identifier tells path, kind, name and line, whether there are several parts, and if so which
of them it is, for any path and any kind and name without colons. How many parts there are is not
told, nor the number of an only part. -/
theorem chunkId_eq_iff (hkind : ':' ∉ kind.toList) (hname : ':' ∉ name.toList)
    (hkind' : ':' ∉ kind'.toList) (hname' : ':' ∉ name'.toList) :
    chunkId path kind name line index total = chunkId path' kind' name' line' index' total' ↔
      path = path' ∧ kind = kind' ∧ name = name' ∧ line = line' ∧
        (1 < total ↔ 1 < total') ∧ (1 < total → index = index') := by
  rw [chunkId_eq_iff_label, label_eq_iff hkind hname hkind' hname', and_assoc, and_assoc]

/-- The path ends as another identifier begins, the names are empty or look like a number of a part,
and the lines hold the same digits as the parts. -/
theorem chunkId_eq_iff_of_colons :
    ':' ∉ "part_1".toList ∧ ':' ∉ "".toList ∧
      chunkId "a:1" "part_1" "" 1 1 2 ≠ chunkId "a" "1" "part_1" 1 1 2 ∧
      chunkId "a:1" "part_1" "" 1 1 2 ≠ chunkId "a:1" "part_1" "" 1 1 1 ∧
      chunkId "a:1" "part_1" "" 1 1 2 = chunkId "a:1" "part_1" "" 1 1 3 ∧
      chunkId "a:1" "part_1" "" 1 0 1 = chunkId "a:1" "part_1" "" 1 7 0 := by
  have hpart : ':' ∉ "part_1".toList := by decide
  have hempty : ':' ∉ "".toList := by decide
  have hone : ':' ∉ "1".toList := by decide
  refine ⟨hpart, hempty, ?_, ?_, ?_, ?_⟩
  · rw [Ne, chunkId_eq_iff hpart hempty hone hpart]
    decide
  · rw [Ne, chunkId_eq_iff hpart hempty hpart hempty]
    decide
  · rw [chunkId_eq_iff hpart hempty hpart hempty]
    decide
  · rw [chunkId_eq_iff hpart hempty hpart hempty]
    decide

end CodeSearch
