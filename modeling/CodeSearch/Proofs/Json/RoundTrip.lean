import CodeSearch.Proofs.Json.Literals

/-!
# Documents read back

Every document that was written, on one line or on many, is read back as it was. The reader works
with fuel; two steps for each symbol are enough.

- `Reads`: a stretch of input is read as a document, whatever follows it.
- `reads_renderAt`: a document is read back from what was written for it.
- `ofText?_compact`, `ofText?_pretty`: the two layouts.
-/

namespace CodeSearch.Json

/-! ## Blanks -/

theorem isGap_of_mem_gap {layout : Layout} {depth : Nat} {symbol : Symbol}
    (h : symbol ∈ (layout.gap depth).map some) : isGap symbol = true := by
  obtain ⟨c, hc, rfl⟩ := List.mem_map.mp h
  cases layout with
  | compact => cases hc
  | indented =>
    rcases List.mem_cons.mp hc with rfl | hc
    · rfl
    · rw [List.eq_of_mem_replicate hc]
      rfl

theorem isGap_of_mem_afterColon {layout : Layout} {symbol : Symbol}
    (h : symbol ∈ layout.afterColon.map some) : isGap symbol = true := by
  cases layout with
  | compact => cases h
  | indented =>
    rw [List.mem_singleton.mp h]
    rfl

theorem skipGap_append {blank : List Symbol} (h : ∀ symbol ∈ blank, isGap symbol = true)
    (symbols : List Symbol) : skipGap (blank ++ symbols) = skipGap symbols := by
  rw [skipGap, List.dropWhile_append_of_pos h]
  rfl

theorem skipGap_cons {symbol : Symbol} (h : isGap symbol = false) (rest : List Symbol) :
    skipGap (symbol :: rest) = symbol :: rest := by
  rw [skipGap, List.dropWhile_cons, h, if_neg Bool.false_ne_true]

theorem readValue_append {blank : List Symbol} (h : ∀ symbol ∈ blank, isGap symbol = true)
    (fuel : Nat) (symbols : List Symbol) :
    readValue fuel (blank ++ symbols) = readValue fuel symbols := by
  cases fuel with
  | zero => rfl
  | succ fuel => rw [readValue, readValue, skipGap_append h]

theorem readMembers_append {blank : List Symbol} (h : ∀ symbol ∈ blank, isGap symbol = true)
    (fuel : Nat) (symbols : List Symbol) :
    readMembers fuel (blank ++ symbols) = readMembers fuel symbols := by
  cases fuel with
  | zero => rfl
  | succ fuel => rw [readMembers, readMembers, skipGap_append h]

/-! ## Stretches of input -/

/-- The stretch of input is read as the document, if there is fuel for its symbols and what follows
does not continue a number. -/
def Reads (text : List Symbol) (document : Json) : Prop :=
  ∀ fuel rest, 2 * text.length ≤ fuel → Stops rest →
    readValue fuel (text ++ rest) = some (document, rest)

/-- A stretch that is not empty leaves fuel for one step. -/
theorem Reads.of_succ {text : List Symbol} {document : Json} (htext : text ≠ [])
    (h : ∀ fuel rest, 2 * text.length ≤ fuel + 1 → Stops rest →
      readValue (fuel + 1) (text ++ rest) = some (document, rest)) : Reads text document := by
  intro fuel rest hfuel hrest
  have hlength := List.length_pos_iff.mpr htext
  cases fuel with
  | zero => omega
  | succ fuel => exact h fuel rest hfuel hrest

/-- Blanks before a document do not matter. -/
theorem Reads.blank {blank text : List Symbol} {document : Json} (h : Reads text document)
    (hblank : ∀ symbol ∈ blank, isGap symbol = true) : Reads (blank ++ text) document := by
  intro fuel rest hfuel hrest
  rw [List.length_append] at hfuel
  rw [List.append_assoc, readValue_append hblank]
  exact h fuel rest (by omega) hrest

/-- What follows a first item does not continue it. -/
theorem stops_renderItems (layout : Layout) (depth : Nat) (items : List Json)
    (rest : List Symbol) : Stops ((renderItems layout depth items).map some ++ rest) := by
  cases items with
  | nil => cases layout <;> exact stops_cons (by decide) _
  | cons item items => exact stops_cons (by decide) _

theorem stops_renderMembers (layout : Layout) (depth : Nat)
    (members : List (Option String × Json)) (rest : List Symbol) :
    Stops ((renderMembers layout depth members).map some ++ rest) := by
  cases members with
  | nil => cases layout <;> exact stops_cons (by decide) _
  | cons member members => exact stops_cons (by decide) _

/-- The characters with which a number starts. -/
def numberStarts : List Char := ['-', '0', '1', '2', '3', '4', '5', '6', '7', '8', '9']

/-- A number starts like no other document. -/
theorem of_mem_numberStarts {c : Char} (h : c ∈ numberStarts) :
    isGap (some c) = false ∧ some c ≠ some '"' ∧ some c ≠ some '[' ∧ c ≠ ']' ∧
      some c ≠ some '\x7b' ∧ some c ≠ some 'n' ∧ some c ≠ some 't' ∧ some c ≠ some 'f' := by
  have hall : numberStarts.all (fun c => !isGap (some c) &&
      !(['"', '[', ']', '\x7b', 'n', 't', 'f'].contains c)) = true := by decide
  have hc := List.all_eq_true.mp hall c h
  simpa using hc

theorem renderNumber_eq_cons (n : Number) :
    ∃ c body, renderNumber n = c :: body ∧ c ∈ numberStarts := by
  rw [renderNumber]
  cases n.negative with
  | true => exact ⟨'-', _, rfl, by decide⟩
  | false =>
    obtain ⟨first, others, hdigits, -, -⟩ := decimalDigits_eq_map n.whole
    have hstarts : ∀ d : Fin 10, Nat.digitChar d.val ∈ numberStarts := by decide
    rw [hdigits]
    exact ⟨_, _, rfl, hstarts first⟩

/-- A document does not start with a blank, and not with a closing bracket. -/
theorem renderAt_eq_cons (layout : Layout) (depth : Nat) (document : Json) :
    ∃ c body, renderAt layout depth document = c :: body ∧ isGap (some c) = false ∧ c ≠ ']' := by
  cases document with
  | null => exact ⟨'n', _, rfl, by decide, by decide⟩
  | bool value =>
    cases value with
    | true => exact ⟨'t', _, rfl, by decide, by decide⟩
    | false => exact ⟨'f', _, rfl, by decide, by decide⟩
  | number n =>
    obtain ⟨c, body, hn, hc⟩ := renderNumber_eq_cons n
    obtain ⟨hgap, -, -, hbracket, -⟩ := of_mem_numberStarts hc
    exact ⟨c, body, hn, hgap, hbracket⟩
  | string value =>
    cases value with
    | none => exact ⟨'"', _, rfl, by decide, by decide⟩
    | some text => exact ⟨'"', _, rfl, by decide, by decide⟩
  | array items =>
    cases items with
    | nil => exact ⟨'[', _, rfl, by decide, by decide⟩
    | cons item items => exact ⟨'[', _, rfl, by decide, by decide⟩
  | object members =>
    cases members with
    | nil => exact ⟨'\x7b', _, rfl, by decide, by decide⟩
    | cons member members => exact ⟨'\x7b', _, rfl, by decide, by decide⟩

/-! ## Leaves -/

theorem reads_number (n : Number) : Reads ((renderNumber n).map some) (.number n) := by
  obtain ⟨c, body, hn, hc⟩ := renderNumber_eq_cons n
  obtain ⟨hgap, hquote, hbracket, -, hbrace, hnull, htrue, hfalse⟩ := of_mem_numberStarts hc
  refine Reads.of_succ (by simp [hn]) fun fuel rest _ hrest => ?_
  have hread := readNumber_renderNumber hrest n
  rw [hn, List.map_cons, List.cons_append] at hread ⊢
  rw [readValue, skipGap_cons hgap]
  dsimp only
  rw [if_neg hquote, if_neg hbracket, if_neg hbrace, if_neg hnull, if_neg htrue, if_neg hfalse,
    hread]
  rfl

theorem reads_string (value : Option String) :
    Reads ((renderString value).map some) (.string value) := by
  refine Reads.of_succ (by cases value <;> simp [renderString]) fun fuel rest _ _ => ?_
  obtain ⟨body, hrender, hread⟩ := readString_renderString value rest
  rw [hrender, List.cons_append, readValue, skipGap_cons (by decide)]
  dsimp only
  rw [if_pos rfl, hread]
  rfl

theorem reads_null : Reads (['n', 'u', 'l', 'l'].map some) .null := by
  refine Reads.of_succ (by decide) fun fuel rest _ _ => ?_
  rw [readValue, List.map_cons, List.cons_append, skipGap_cons (by decide)]
  rfl

theorem reads_bool (value : Bool) (layout : Layout) (depth : Nat) :
    Reads ((renderAt layout depth (.bool value)).map some) (.bool value) := by
  cases value with
  | true =>
    refine Reads.of_succ (by simp [renderAt]) fun fuel rest _ _ => ?_
    rw [readValue, renderAt, List.map_cons, List.cons_append, skipGap_cons (by decide)]
    rfl
  | false =>
    refine Reads.of_succ (by simp [renderAt]) fun fuel rest _ _ => ?_
    rw [readValue, renderAt, List.map_cons, List.cons_append, skipGap_cons (by decide)]
    rfl

/-! ## Arrays -/

/-- What follows the first item of an array is read with it as the items of the array. -/
def ReadsItems (layout : Layout) (depth : Nat) (items : List Json) : Prop :=
  ∀ text item, Reads text item → ∀ fuel rest,
    2 * (text.length + (renderItems layout depth items).length) ≤ fuel →
    readItems (fuel + 1) (text ++ ((renderItems layout depth items).map some ++ rest)) =
      some (item :: items, rest)

theorem readsItems_nil (layout : Layout) (depth : Nat) : ReadsItems layout depth [] := by
  intro text item hitem fuel rest hfuel
  have hread := hitem fuel ((renderItems layout depth []).map some ++ rest) (by omega)
    (stops_renderItems layout depth [] rest)
  rw [readItems, hread, renderItems, List.map_append, List.append_assoc]
  dsimp only
  rw [skipGap_append fun _ => isGap_of_mem_gap, List.map_singleton, List.singleton_append,
    skipGap_cons (by decide)]
  rfl

theorem readsItems_cons {layout : Layout} {depth : Nat} {next : Json} {items : List Json}
    (hnext : Reads ((renderAt layout (depth + 1) next).map some) next)
    (hitems : ReadsItems layout depth items) : ReadsItems layout depth (next :: items) := by
  intro text item hitem fuel rest hfuel
  have hread := hitem fuel ((renderItems layout depth (next :: items)).map some ++ rest) (by omega)
    (stops_renderItems layout depth (next :: items) rest)
  rw [renderItems, List.length_cons, List.length_append, List.length_append] at hfuel
  -- The gap in front of the next item belongs to the stretch that is read as this item.
  have htext : Reads ((layout.gap (depth + 1)).map some ++
      (renderAt layout (depth + 1) next).map some) next :=
    hnext.blank fun _ => isGap_of_mem_gap
  -- The comma in front of the next item pays for reading this one.
  cases fuel with
  | zero => omega
  | succ fuel =>
    have hmore := hitems _ next htext fuel rest
      (by rw [List.length_append, List.length_map, List.length_map]; omega)
    rw [readItems, hread, renderItems, List.map_cons, List.cons_append]
    dsimp only
    rw [skipGap_cons (by decide), List.map_append, List.map_append, List.append_assoc]
    show (readItems (fuel + 1) _).map (fun found => (item :: found.1, found.2)) = _
    rw [hmore]
    rfl

/-- An array is read if its first item and what follows it are. -/
theorem reads_array {layout : Layout} {depth : Nat} {item : Json} {items : List Json}
    (hitem : Reads ((renderAt layout (depth + 1) item).map some) item)
    (hitems : ReadsItems layout depth items) :
    Reads ((renderAt layout depth (.array (item :: items))).map some) (.array (item :: items)) := by
  refine Reads.of_succ (by simp [renderAt]) fun fuel rest hfuel _ => ?_
  -- Neither a blank nor a bracket: the reader goes on to the items where the first one starts.
  obtain ⟨c, body, hc, hgap, hbracket⟩ := renderAt_eq_cons layout (depth + 1) item
  rw [renderAt, List.map_cons, List.length_cons, List.length_map, List.length_append,
    List.length_append] at hfuel
  -- The bracket and what follows it pay for the two steps into the items.
  cases fuel with
  | zero => omega
  | succ fuel =>
    have hread := hitems _ item hitem fuel rest (by rw [List.length_map]; omega)
    rw [hc, List.map_cons, List.cons_append] at hread
    rw [renderAt, List.map_cons, List.cons_append, readValue, skipGap_cons (by decide)]
    dsimp only
    rw [if_neg (by decide), if_pos rfl, List.map_append, List.map_append, List.append_assoc,
      List.append_assoc, skipGap_append fun _ => isGap_of_mem_gap, hc, List.map_cons,
      List.cons_append, skipGap_cons hgap]
    split
    · next heq =>
      injection heq with hhead
      exact absurd (Option.some.inj hhead) hbracket
    · rw [hread]
      rfl

/-! ## Objects -/

/-- What follows the first member of an object is read with it as the members of the object. -/
def ReadsMembers (layout : Layout) (depth : Nat) (members : List (Option String × Json)) : Prop :=
  ∀ text key value, Reads text value → ∀ fuel rest,
    2 * ((renderString key).length + text.length + (renderMembers layout depth members).length) ≤
      fuel →
    readMembers (fuel + 1) ((renderString key).map some ++
      some ':' :: (text ++ ((renderMembers layout depth members).map some ++ rest))) =
      some ((key, value) :: members, rest)

/-- After its last member an object ends. -/
theorem readMembers_last {text : List Symbol} {value : Json} (hvalue : Reads text value)
    (key : Option String) {fuel : Nat} {follow rest : List Symbol}
    (hfuel : 2 * text.length ≤ fuel) (hfollow : Stops follow)
    (hend : skipGap follow = some '\x7d' :: rest) :
    readMembers (fuel + 1) ((renderString key).map some ++ some ':' :: (text ++ follow)) =
      some ([(key, value)], rest) := by
  obtain ⟨body, hrender, hread⟩ :=
    readString_renderString key (some ':' :: (text ++ follow))
  rw [hrender, List.cons_append, readMembers, skipGap_cons (by decide)]
  simp only [hread, skipGap_cons (show isGap (some ':') = false by decide),
    hvalue fuel follow hfuel hfollow, hend]

/-- After any other member it goes on. -/
theorem readMembers_next {text : List Symbol} {value : Json} (hvalue : Reads text value)
    (key : Option String) {fuel : Nat} {follow more rest : List Symbol}
    {members : List (Option String × Json)} (hfuel : 2 * text.length ≤ fuel)
    (hfollow : Stops follow) (hnext : skipGap follow = some ',' :: more)
    (hmore : readMembers fuel more = some (members, rest)) :
    readMembers (fuel + 1) ((renderString key).map some ++ some ':' :: (text ++ follow)) =
      some ((key, value) :: members, rest) := by
  obtain ⟨body, hrender, hread⟩ :=
    readString_renderString key (some ':' :: (text ++ follow))
  rw [hrender, List.cons_append, readMembers, skipGap_cons (by decide)]
  simp only [hread, skipGap_cons (show isGap (some ':') = false by decide),
    hvalue fuel follow hfuel hfollow, hnext, hmore, Option.map_some]

theorem readsMembers_nil (layout : Layout) (depth : Nat) : ReadsMembers layout depth [] := by
  intro text key value hvalue fuel rest hfuel
  refine readMembers_last hvalue key (by omega) (stops_renderMembers layout depth [] rest) ?_
  rw [renderMembers, List.map_append, List.append_assoc, skipGap_append fun _ => isGap_of_mem_gap]
  exact skipGap_cons (by decide) rest

theorem readsMembers_cons {layout : Layout} {depth : Nat} {key : Option String} {value : Json}
    {members : List (Option String × Json)}
    (hvalue : Reads ((renderAt layout (depth + 1) value).map some) value)
    (hmembers : ReadsMembers layout depth members) :
    ReadsMembers layout depth ((key, value) :: members) := by
  intro text first document hdocument fuel rest hfuel
  have htext : Reads (layout.afterColon.map some ++
      (renderAt layout (depth + 1) value).map some) value :=
    hvalue.blank fun _ => isGap_of_mem_afterColon
  have hfollow := stops_renderMembers layout depth ((key, value) :: members) rest
  rw [renderMembers] at hfuel hfollow ⊢
  simp only [List.length_cons, List.length_append] at hfuel
  cases fuel with
  | zero => omega
  | succ fuel =>
    have hmore := hmembers _ key value htext fuel rest
      (by rw [List.length_append, List.length_map, List.length_map]; omega)
    rw [List.map_cons, List.cons_append] at hfollow ⊢
    refine readMembers_next hdocument first (by omega) hfollow (skipGap_cons (by decide) _) ?_
    simp only [List.map_append, List.map_cons, List.append_assoc, List.cons_append] at hmore ⊢
    rw [readMembers_append fun _ => isGap_of_mem_gap]
    exact hmore

/-- An object is read if its first member and what follows it are. -/
theorem reads_object {layout : Layout} {depth : Nat} {key : Option String} {value : Json}
    {members : List (Option String × Json)}
    (hvalue : Reads ((renderAt layout (depth + 1) value).map some) value)
    (hmembers : ReadsMembers layout depth members) :
    Reads ((renderAt layout depth (.object ((key, value) :: members))).map some)
      (.object ((key, value) :: members)) := by
  have htext : Reads (layout.afterColon.map some ++
      (renderAt layout (depth + 1) value).map some) value :=
    hvalue.blank fun _ => isGap_of_mem_afterColon
  refine Reads.of_succ (by simp [renderAt]) fun fuel rest hfuel _ => ?_
  obtain ⟨body, hkey, -⟩ := readString_renderString key []
  rw [renderAt] at hfuel ⊢
  simp only [List.map_cons, List.length_cons, List.length_map, List.length_append] at hfuel
  cases fuel with
  | zero => omega
  | succ fuel =>
    have hread := hmembers _ key value htext fuel rest
      (by rw [List.length_append, List.length_map, List.length_map]; omega)
    rw [List.map_cons, List.cons_append, readValue, skipGap_cons (by decide)]
    dsimp only
    rw [if_neg (by decide), if_neg (by decide), if_pos rfl]
    simp only [List.map_append, List.map_cons, List.append_assoc, List.cons_append] at hread ⊢
    rw [skipGap_append fun _ => isGap_of_mem_gap]
    rw [hkey, List.cons_append] at hread ⊢
    rw [skipGap_cons (by decide)]
    show (readMembers (fuel + 1) _).map (fun found => (Json.object found.1, found.2)) = _
    rw [hread]
    rfl

/-! ## Documents -/

/-- A document is read back from what was written for it. -/
theorem reads_renderAt (layout : Layout) (depth : Nat) (document : Json) :
    Reads ((renderAt layout depth document).map some) document := by
  -- Documents, their items and their members are written by three functions that call each other.
  refine renderAt.induct
    (fun depth document => Reads ((renderAt layout depth document).map some) document)
    (fun depth members => ReadsMembers layout depth members)
    (fun depth items => ReadsItems layout depth items)
    ?null ?true ?false ?number ?string ?emptyArray ?array ?emptyObject ?object ?noItems ?items
    ?noMembers ?members depth document
  case null => exact fun depth => renderAt.eq_1 layout depth ▸ reads_null
  case true => exact fun depth => reads_bool true layout depth
  case false => exact fun depth => reads_bool false layout depth
  case number =>
    intro depth n
    rw [renderAt]
    exact reads_number n
  case string =>
    intro depth value
    rw [renderAt]
    exact reads_string value
  case emptyArray =>
    intro depth
    refine Reads.of_succ (by simp [renderAt]) fun fuel rest _ _ => ?_
    rw [readValue, renderAt, List.map_cons, List.cons_append, skipGap_cons (by decide)]
    rfl
  case array => exact fun depth item items hitem hitems => reads_array hitem hitems
  case emptyObject =>
    intro depth
    refine Reads.of_succ (by simp [renderAt]) fun fuel rest _ _ => ?_
    rw [readValue, renderAt, List.map_cons, List.cons_append, skipGap_cons (by decide)]
    rfl
  case object => exact fun depth key value members hvalue hmembers => reads_object hvalue hmembers
  case noItems => exact readsItems_nil layout
  case items => exact fun depth item items hitem hitems => readsItems_cons hitem hitems
  case noMembers => exact readsMembers_nil layout
  case members =>
    exact fun depth key value members hvalue hmembers => readsMembers_cons hvalue hmembers

/-- A document that fills the input is read back. -/
theorem ofSymbols?_renderAt (layout : Layout) (depth : Nat) (document : Json) :
    ofSymbols? ((renderAt layout depth document).map some) = some document := by
  have hread := reads_renderAt layout depth document
    (2 * ((renderAt layout depth document).map some).length + 2) [] (by omega) stops_nil
  rw [List.append_nil] at hread
  rw [ofSymbols?, hread]
  rfl

/-- A document on one line is read back. -/
theorem ofText?_compact (document : Json) : ofText? document.compact = some document := by
  rw [ofText?, compact, String.toList_ofList]
  exact ofSymbols?_renderAt .compact 0 document

/-- A document with one item per line is read back. -/
theorem ofText?_pretty (document : Json) : ofText? document.pretty = some document := by
  rw [ofText?, pretty, String.toList_ofList]
  exact ofSymbols?_renderAt .indented 0 document

end CodeSearch.Json
