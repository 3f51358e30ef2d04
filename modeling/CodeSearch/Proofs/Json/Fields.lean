import CodeSearch.Json.Fields
import Mathlib.Data.List.Nodup

/-!
# Values and fields

A value that was written as a document is read back from it. The fields of a record that is an
object are given by its members: by which documents stand under which key, and by nothing else.

- `asUInt64?_ofNat`, `asInt32?_ofInt`, `asList?_texts`, `asOptionalText?_optionalText`: values.
- `IsRecord`: an object in which the fields can be found; `fields?_object_eq_some_iff`.
- `member?_eq_some_iff`, `member?_eq_none_iff`: the members by key.
- `IsField`, `withDefault_member?_eq_some_iff`: the value of a field that may be missing.
- `isRecord_membersOf`, `isField_membersOf`: an object that was written for a record.
- `SameKnown`: two objects with the same members under the known keys; `SameKnown.isRecord_iff`,
  `SameKnown.mem_iff`.
-/

namespace CodeSearch.Json

/-! ## Values -/

theorem asOptionalText?_optionalText (value : Option String) :
    asOptionalText? (optionalText value) = some value := by
  cases value <;> rfl

theorem asUInt64?_ofNat (n : UInt64) : asUInt64? (ofNat n.toNat) = some n := by
  show Number.toUInt64? { whole := n.toNat } = some n
  rw [Number.toUInt64?, UInt64.ofNat_toNat]
  refine if_pos ?_
  simpa [Number.isInteger] using n.toNat_lt

theorem asInt32?_ofInt (i : Int32) : asInt32? (ofInt i.toInt) = some i := by
  show Number.toInt32? { negative := i.toInt < 0, whole := i.toInt.natAbs } = some i
  have hvalue : Number.toInt { negative := i.toInt < 0, whole := i.toInt.natAbs } = i.toInt := by
    show (if decide (i.toInt < 0) = true then -(i.toInt.natAbs : Int) else i.toInt.natAbs) = i.toInt
    by_cases hnegative : i.toInt < 0
    · rw [if_pos (decide_eq_true hnegative)]
      omega
    · rw [if_neg (by simpa using hnegative)]
      omega
  -- A negative number is not zero, so the sign does not make it a fraction.
  have hinteger :
      Number.isInteger { negative := i.toInt < 0, whole := i.toInt.natAbs } = true := by
    simp only [Number.isInteger, List.isEmpty_nil, Option.isNone_none, Bool.true_and,
      Bool.not_eq_true', Bool.and_eq_false_iff, decide_eq_false_iff_not, beq_eq_false_iff_ne]
    omega
  have hlow : -2147483648 ≤ i.toInt := i.le_toInt
  have hhigh : i.toInt < 2147483648 := i.toInt_lt
  rw [Number.toInt32?, hvalue, hinteger, Int32.ofInt_toInt]
  exact if_pos (by simpa using ⟨hlow, hhigh⟩)

theorem asList?_texts (items : List String) : asList? asText? (texts items) = some items := by
  show (items.map text).mapM asText? = some items
  induction items with
  | nil => rfl
  | cons item items ih =>
    rw [List.map_cons, List.mapM_cons, ih]
    rfl

/-! ## Members -/

variable {α : Type} {members others : List (Option String × Json)} {names : List String}
  {name : String} {document : Json} {read : Json → Option α} {fallback value : α}

/-- The key of at most one member is the name. -/
def Once (members : List (Option String × Json)) (name : String) : Prop :=
  members.countP (fun member => member.1 == some name) ≤ 1

/-- The object can be read as a record: all keys are texts, and no name occurs twice as a key. -/
structure IsRecord (names : List String) (members : List (Option String × Json)) : Prop where
  keys : ∀ member ∈ members, member.1.isSome = true
  once : ∀ name ∈ names, Once members name

theorem fields?_object_eq_some_iff {field : Fields} :
    (object members).fields? names = some field ↔
      IsRecord names members ∧ member? members = field := by
  have hrecord : (members.all (fun member => member.1.isSome) &&
      names.all fun name => members.countP (fun member => member.1 == some name) ≤ 1) = true ↔
      IsRecord names members := by
    rw [Bool.and_eq_true, List.all_eq_true, List.all_eq_true]
    simp only [decide_eq_true_eq]
    exact ⟨fun h => ⟨h.1, h.2⟩, fun h => ⟨h.keys, h.once⟩⟩
  rw [fields?]
  by_cases h : IsRecord names members
  · rw [if_pos (hrecord.mpr h), Option.some_inj, and_iff_right h]
  · rw [if_neg (mt hrecord.mp h)]
    exact ⟨fun hfield => (nomatch hfield), fun hfield => absurd hfield.1 h⟩

theorem fields?_of_isRecord (h : IsRecord names members) :
    (object members).fields? names = some (member? members) :=
  fields?_object_eq_some_iff.mpr ⟨h, rfl⟩

theorem mem_of_member? (h : member? members name = some document) :
    (some name, document) ∈ members := by
  obtain ⟨⟨key, found⟩, hfind, rfl⟩ := Option.map_eq_some_iff.mp h
  have hkey : (key == some name) = true :=
    List.find?_some (p := fun member : Option String × Json => member.1 == some name) hfind
  rw [← eq_of_beq hkey]
  exact List.mem_of_find?_eq_some hfind

theorem member?_eq_none_iff :
    member? members name = none ↔ ∀ document, (some name, document) ∉ members := by
  rw [member?, Option.map_eq_none_iff, List.find?_eq_none]
  constructor
  · exact fun h document hmember => h _ hmember (beq_self_eq_true _)
  · rintro h ⟨key, document⟩ hmember hkey
    rw [beq_iff_eq] at hkey
    exact h document (hkey ▸ hmember)

/-- The member that is found under a key that occurs once is the one that has it. -/
theorem member?_eq_some_iff (h : Once members name) :
    member? members name = some document ↔ (some name, document) ∈ members := by
  refine ⟨mem_of_member?, fun hmember => ?_⟩
  obtain ⟨before, after, rfl⟩ := List.append_of_mem hmember
  -- The members before it have other keys: theirs would be a second one.
  have hbefore : ∀ member ∈ before, ¬ (member.1 == some name) = true := by
    rw [Once, List.countP_append, List.countP_cons_of_pos
      (p := fun member : Option String × Json => member.1 == some name) (beq_self_eq_true _)] at h
    exact List.countP_eq_zero.mp (by omega)
  rw [member?, List.find?_append, List.find?_eq_none.mpr hbefore, Option.none_or,
    List.find?_cons_of_pos (p := fun member : Option String × Json => member.1 == some name)
      (beq_self_eq_true _), Option.map_some]

/-! ## Fields -/

/-- The value of a field that may be missing: its own member is read as the value, or there is no
such member and the value is the default. -/
structure IsField (read : Json → Option α) (fallback : α)
    (members : List (Option String × Json)) (name : String) (value : α) : Prop where
  present : ∀ document, (some name, document) ∈ members → read document = some value
  absent : (∀ document, (some name, document) ∉ members) → value = fallback

theorem withDefault_member?_eq_some_iff (h : Once members name) :
    withDefault fallback read (member? members name) = some value ↔
      IsField read fallback members name value := by
  cases hfound : member? members name with
  | none =>
    have habsent := member?_eq_none_iff.mp hfound
    rw [withDefault, Option.some_inj]
    constructor
    · exact fun hvalue => ⟨fun document hmember => absurd hmember (habsent document),
        fun _ => hvalue.symm⟩
    · exact fun hfield => (hfield.absent habsent).symm
  | some document =>
    rw [withDefault]
    constructor
    · intro hread
      refine ⟨fun other hmember => ?_, fun habsent => absurd (mem_of_member? hfound) (habsent _)⟩
      -- There is no other member under this key.
      have hsame := (member?_eq_some_iff h).mpr hmember
      rw [hfound, Option.some_inj] at hsame
      rw [← hsame, hread]
    · exact fun hfield => hfield.present document (mem_of_member? hfound)

/-- If the member of a field can be read wherever there is one, then the field has a value. -/
theorem IsRecord.exists_isField (h : IsRecord names members) (hname : name ∈ names)
    (htyped : ∀ document, (some name, document) ∈ members → (read document).isSome = true)
    (fallback : α) : ∃ value, IsField read fallback members name value := by
  simp only [← withDefault_member?_eq_some_iff (h.once name hname)]
  cases hfound : member? members name with
  | none => exact ⟨fallback, rfl⟩
  | some document => exact Option.isSome_iff_exists.mp (htyped document (mem_of_member? hfound))

theorem IsRecord.field_iff (h : IsRecord names members) (hname : name ∈ names) :
    withDefault fallback read (member? members name) = some value ↔
      IsField read fallback members name value :=
  withDefault_member?_eq_some_iff (h.once name hname)

theorem IsField.of_mem_iff (h : IsField read fallback members name value)
    (hmem : ∀ document, (some name, document) ∈ members ↔ (some name, document) ∈ others) :
    IsField read fallback others name value where
  present := fun document hmember => h.present document ((hmem document).mpr hmember)
  absent := fun habsent =>
    h.absent fun document hmember => habsent document ((hmem document).mp hmember)

/-- A member may be replaced by one that is read as the same value. -/
theorem IsField.replace {before after : List (Option String × Json)} {key : String} {other : Json}
    (h : IsField read fallback (before ++ (some key, document) :: after) name value)
    (hread : key = name → read other = read document) :
    IsField read fallback (before ++ (some key, other) :: after) name value where
  present := by
    intro found hfound
    rw [List.mem_append, List.mem_cons] at hfound
    rcases hfound with hbefore | hsame | hafter
    · exact h.present found (List.mem_append_left _ hbefore)
    · cases hsame
      rw [hread rfl]
      exact h.present document (List.mem_append_right _ List.mem_cons_self)
    · exact h.present found (List.mem_append_right _ (List.mem_cons_of_mem _ hafter))
  absent := by
    intro habsent
    refine h.absent fun found hfound => ?_
    rw [List.mem_append, List.mem_cons] at hfound
    rcases hfound with hbefore | hsame | hafter
    · exact habsent found (List.mem_append_left _ hbefore)
    · cases hsame
      exact habsent other (List.mem_append_right _ List.mem_cons_self)
    · exact habsent found (List.mem_append_right _ (List.mem_cons_of_mem _ hafter))

/-- Which documents stand under the keys does not matter for finding the fields. -/
theorem isRecord_replace_iff {before after : List (Option String × Json)} {key : Option String}
    {other : Json} :
    IsRecord names (before ++ (key, document) :: after) ↔
      IsRecord names (before ++ (key, other) :: after) := by
  have hkeys : ∀ {first second : List (Option String × Json)},
      first.map Prod.fst = second.map Prod.fst → IsRecord names first → IsRecord names second := by
    intro first second hsame h
    refine ⟨fun member hmember => ?_, fun name hname => ?_⟩
    · have hkey := List.mem_map_of_mem (f := Prod.fst) hmember
      rw [← hsame] at hkey
      obtain ⟨same, hsame, hkey⟩ := List.mem_map.mp hkey
      rw [← hkey]
      exact h.keys same hsame
    · have hcount := h.once name hname
      have hmap : ∀ all : List (Option String × Json),
          all.countP (fun member => member.1 == some name) =
            (all.map Prod.fst).countP (· == some name) := fun all => by
        rw [List.countP_map]
        rfl
      rw [Once, hmap] at hcount ⊢
      rwa [← hsame]
  have hsame : (before ++ (key, document) :: after).map Prod.fst =
      (before ++ (key, other) :: after).map Prod.fst := by
    rw [List.map_append, List.map_append]
    rfl
  exact ⟨hkeys hsame, hkeys hsame.symm⟩

/-! ## Records -/

/-- The members that are written for the fields of a record. -/
def membersOf (fields : List (String × Json)) : List (Option String × Json) :=
  fields.map fun field => (some field.1, field.2)

theorem record_eq_membersOf (fields : List (String × Json)) :
    record fields = object (membersOf fields) := rfl

theorem once_membersOf {fields : List (String × Json)} (h : (fields.map Prod.fst).Nodup)
    (name : String) : Once (membersOf fields) name := by
  have hcount := List.nodup_iff_count_le_one.mp h name
  rw [List.count_eq_countP, List.countP_map] at hcount
  rw [Once, membersOf, List.countP_map]
  refine Nat.le_trans (List.countP_mono_left fun field _ hfield => ?_) hcount
  simpa using hfield

/-- What is written for fields with different names can be read as a record. -/
theorem isRecord_membersOf {fields : List (String × Json)} (h : (fields.map Prod.fst).Nodup) :
    IsRecord names (membersOf fields) where
  keys := by
    intro member hmember
    obtain ⟨field, -, rfl⟩ := List.mem_map.mp hmember
    rfl
  once := fun name _ => once_membersOf h name

theorem mem_membersOf {fields : List (String × Json)} :
    (some name, document) ∈ membersOf fields ↔ (name, document) ∈ fields := by
  simp [membersOf]

/-- A field that was written has the value that is read from what was written for it. -/
theorem isField_membersOf {fields : List (String × Json)} (h : (fields.map Prod.fst).Nodup)
    (document : Json) (hfield : (name, document) ∈ fields) (hread : read document = some value) :
    IsField read fallback (membersOf fields) name value where
  present := by
    intro found hfound
    -- The names of the fields are different, so nothing else stands under this one.
    have hsame : (name, found) = (name, document) :=
      List.inj_on_of_nodup_map h (mem_membersOf.mp hfound) hfield rfl
    cases hsame
    exact hread
  absent := fun habsent => absurd (mem_membersOf.mpr hfield) (habsent document)

/-- A field that was left out has its default. -/
theorem isField_membersOf_of_not_mem {fields : List (String × Json)}
    (h : name ∉ fields.map Prod.fst) :
    IsField read fallback (membersOf fields) name fallback where
  present := fun _ hfound => absurd (List.mem_map_of_mem (mem_membersOf.mp hfound)) h
  absent := fun _ => rfl

/-! ## Unknown members -/

/-- The key of a member is one of the names. -/
def isKnown (names : List String) (member : Option String × Json) : Bool :=
  names.any fun name => member.1 == some name

/-- The two objects have the same members under the known keys, maybe in another order. What they
have under other keys may be different. -/
structure SameKnown (names : List String) (members others : List (Option String × Json)) :
    Prop where
  keys : (∀ member ∈ members, member.1.isSome = true) ↔ ∀ other ∈ others, other.1.isSome = true
  known : (members.filter (isKnown names)).Perm (others.filter (isKnown names))

theorem isKnown_of_mem (hname : name ∈ names) : isKnown names (some name, document) = true :=
  List.any_eq_true.mpr ⟨name, hname, beq_self_eq_true _⟩

theorem SameKnown.symm (h : SameKnown names members others) : SameKnown names others members :=
  ⟨h.keys.symm, h.known.symm⟩

theorem SameKnown.mem_iff (h : SameKnown names members others) (hname : name ∈ names)
    (document : Json) : (some name, document) ∈ members ↔ (some name, document) ∈ others := by
  have hmem := h.known.mem_iff (a := (some name, document))
  rwa [List.mem_filter, List.mem_filter, and_iff_left (isKnown_of_mem hname),
    and_iff_left (isKnown_of_mem hname)] at hmem

theorem SameKnown.countP_eq (h : SameKnown names members others) (hname : name ∈ names) :
    members.countP (fun member => member.1 == some name) =
      others.countP fun member => member.1 == some name := by
  have hfilter : ∀ all : List (Option String × Json),
      (all.filter (isKnown names)).countP (fun member => member.1 == some name) =
        all.countP fun member => member.1 == some name := by
    intro all
    rw [List.countP_filter]
    refine List.countP_congr fun member _ => ?_
    rw [Bool.and_eq_true]
    refine ⟨And.left, fun hkey => ⟨hkey, ?_⟩⟩
    rw [isKnown, List.any_eq_true]
    exact ⟨name, hname, hkey⟩
  rw [← hfilter members, ← hfilter others]
  exact h.known.countP_eq _

theorem SameKnown.isRecord_iff (h : SameKnown names members others) :
    IsRecord names members ↔ IsRecord names others := by
  constructor
  · intro hrecord
    refine ⟨h.keys.mp hrecord.keys, fun name hname => ?_⟩
    have hcount := hrecord.once name hname
    rwa [Once, h.countP_eq hname] at hcount
  · intro hrecord
    refine ⟨h.keys.mpr hrecord.keys, fun name hname => ?_⟩
    rw [Once, h.countP_eq hname]
    exact hrecord.once name hname

end CodeSearch.Json
