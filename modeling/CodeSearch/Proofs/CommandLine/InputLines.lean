import CodeSearch.CommandLine.Dialogue
import CodeSearch.Proofs.Text.Encoding
import CodeSearch.Proofs.Text.Trimming

/-!
# The lines of an input

The byte of a line feed is no part of another character, so the bytes of a text are taken apart
where its lines end, and the lines are read as they were written.

- `lineFeed_mem_encode_iff`: a line feed among the bytes of a text.
- `inputLines_unlines`: lines with a line feed after each, and whatever follows them.
- `trimString_inputLines`: what is read of any text are its lines, as long as blank ends do not
  matter: the carriage return before a line feed is still there.
-/

namespace CodeSearch.CommandLine

open Text.Utf8 (bytes encode)

/-! ## Line feeds among bytes -/

/-- The bytes of a character of more than one byte are above all ASCII. -/
theorem lineFeed_mem_encodeChar_iff {c : Char} : 0x0A ∈ String.utf8EncodeChar c ↔ c = '\n' := by
  have hbyte : ∀ n < 256, (0x0A = UInt8.ofNat n ↔ n = 10) := by
    intro n hn
    rw [← UInt8.toNat_inj, UInt8.toNat_ofNat_of_lt' hn]
    exact eq_comm
  have hmax : c.val.toNat < 0x110000 := by
    rcases c.valid with hvalid | ⟨-, hvalid⟩
    · exact Nat.lt_trans hvalid (by decide)
    · exact hvalid
  have hfeed : c = '\n' ↔ c.val.toNat = 10 := by
    rw [← Char.val_inj, ← UInt32.toNat_inj]
    rfl
  rw [hfeed]
  unfold String.utf8EncodeChar
  dsimp only
  split_ifs
  all_goals simp (disch := omega) only [List.mem_cons, List.not_mem_nil, or_false, hbyte]
  all_goals omega

theorem lineFeed_mem_encode_iff {text : List Char} : 0x0A ∈ encode text ↔ '\n' ∈ text := by
  simp only [encode, List.mem_flatMap, lineFeed_mem_encodeChar_iff, exists_eq_right]

theorem encode_eq_nil_iff {text : List Char} : encode text = [] ↔ text = [] := by
  cases text with
  | nil => exact iff_of_true rfl rfl
  | cons c text =>
    rw [Text.Utf8.encode_cons, List.append_eq_nil_iff]
    exact iff_of_false (fun h => String.utf8EncodeChar_ne_nil h.1) (List.cons_ne_nil c text)

/-! ## Rows of bytes -/

variable {row : List UInt8}

theorem byteRows_append_line (h : 0x0A ∉ row) (rest : List UInt8) :
    byteRows (row ++ 0x0A :: rest) = row :: byteRows rest := by
  induction row with
  | nil => rfl
  | cons byte row ih =>
    rw [List.mem_cons, not_or] at h
    obtain ⟨hbyte, hrow⟩ := h
    rw [List.cons_append, byteRows_cons, if_neg (Ne.symm hbyte), ih hrow, consByte]

theorem byteRows_of_not_mem (h : 0x0A ∉ row) : byteRows row = if row = [] then [] else [row] := by
  induction row with
  | nil => rfl
  | cons byte row ih =>
    rw [List.mem_cons, not_or] at h
    obtain ⟨hbyte, hrow⟩ := h
    rw [byteRows_cons, if_neg (Ne.symm hbyte), ih hrow, if_neg (List.cons_ne_nil byte row)]
    split
    · next hnil => rw [hnil, consByte]
    · rw [consByte]

/-! ## Lines -/

theorem text?_bytes (text : String) :
    (Text.Utf8.text? (encode text.toList)).map String.ofList = some text := by
  rw [Text.Utf8.text?_encode, Option.map_some, String.ofList_toList]

theorem inputLines_append_line {line : String} (h : '\n' ∉ line.toList) (rest : String) :
    inputLines (bytes (line ++ "\n" ++ rest)) = some line :: inputLines (bytes rest) := by
  have hfeed : encode "\n".toList = [0x0A] := by decide
  have hbytes : bytes (line ++ "\n" ++ rest) = encode line.toList ++ 0x0A :: bytes rest := by
    rw [bytes, String.toList_append, String.toList_append, encode, List.flatMap_append,
      List.flatMap_append, ← encode, ← encode, hfeed, List.append_assoc, List.singleton_append]
    rfl
  rw [inputLines, hbytes, byteRows_append_line (lineFeed_mem_encode_iff.not.mpr h), List.map_cons,
    text?_bytes, ← inputLines]

theorem inputLines_of_not_mem {last : String} (h : '\n' ∉ last.toList) :
    inputLines (bytes last) = if last = "" then [] else [some last] := by
  have hnil : encode last.toList = [] ↔ last = "" :=
    encode_eq_nil_iff.trans String.toList_eq_nil_iff
  rw [inputLines, bytes, byteRows_of_not_mem (lineFeed_mem_encode_iff.not.mpr h)]
  by_cases hlast : last = ""
  · rw [if_pos hlast, if_pos (hnil.mpr hlast), List.map_nil]
  · rw [if_neg hlast, if_neg (hnil.not.mpr hlast), List.map_singleton, text?_bytes]

theorem unlines_cons (line : String) (lines : List String) :
    unlines (line :: lines) = line ++ "\n" ++ unlines lines := by
  rw [unlines, List.map_cons, String.join_cons, ← unlines]

/-- Lines are read as they were written, and so is what follows them. -/
theorem inputLines_unlines {lines : List String} (h : ∀ line ∈ lines, '\n' ∉ line.toList)
    (rest : String) :
    inputLines (bytes (unlines lines ++ rest)) = lines.map some ++ inputLines (bytes rest) := by
  induction lines with
  | nil => rw [show unlines [] = "" from rfl, String.empty_append, List.map_nil, List.nil_append]
  | cons line lines ih =>
    obtain ⟨hline, hlines⟩ := List.forall_mem_cons.mp h
    rw [unlines_cons, String.append_assoc, inputLines_append_line hline, ih hlines, List.map_cons,
      List.cons_append]

/-! ## Texts -/

theorem toList_unlines (lines : List String) :
    (unlines lines).toList = lines.flatMap fun line => line.toList ++ ['\n'] := by
  induction lines with
  | nil => rfl
  | cons line lines ih =>
    rw [unlines_cons, String.toList_append, String.toList_append, ih, List.flatMap_cons]
    rfl

theorem eq_unlines_of_rows {text : String} {parts : List (List Char)} {last : List Char}
    (h : Text.rows text.toList = parts ++ [last]) :
    text = unlines (parts.map String.ofList) ++ String.ofList last := by
  rw [← String.toList_inj, String.toList_append, toList_unlines, String.toList_ofList,
    ← Text.joinRows_rows text.toList, h, Text.joinRows_concat, List.flatMap_map]
  simp only [String.toList_ofList]

/-- The lines of a text. -/
def linesOf (text : String) : List String := (Text.lines text.toList).map String.ofList

/-- What is read of a text are its lines, blank ends aside. -/
theorem trimString_inputLines (text : String) :
    (inputLines (bytes text)).map (Option.map Text.trimString) =
      (linesOf text).map fun line => some (Text.trimString line) := by
  obtain ⟨parts, last, hrows⟩ := Text.exists_rows_eq_append text.toList
  have hfeed : ∀ row ∈ parts ++ [last], '\n' ∉ (String.ofList row).toList := by
    intro row hrow
    rw [String.toList_ofList]
    exact Text.newline_not_mem_of_mem_rows (hrows ▸ hrow)
  have hparts : ∀ line ∈ parts.map String.ofList, '\n' ∉ line.toList :=
    List.forall_mem_map.mpr fun row hrow => hfeed row (List.mem_append_left _ hrow)
  conv_lhs => rw [eq_unlines_of_rows hrows, inputLines_unlines hparts,
    inputLines_of_not_mem (hfeed last List.mem_concat_self)]
  rw [linesOf, Text.lines_of_rows hrows, List.map_append, List.map_append, List.map_append]
  congr 1
  · simp only [List.map_map]
    refine List.map_congr_left fun row _ => ?_
    simp only [Function.comp_apply, Option.map_some, Text.trimString, String.toList_ofList,
      Text.trim_dropReturn]
  · by_cases hlast : last = []
    · rw [if_pos hlast, if_pos (String.ofList_eq_empty_iff.mpr hlast)]
      rfl
    · rw [if_neg hlast, if_neg (String.ofList_eq_empty_iff.not.mpr hlast)]
      rfl

end CodeSearch.CommandLine
