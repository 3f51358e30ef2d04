import CodeSearch.Proofs.Store.Ledger
import CodeSearch.Proofs.Store.Matching

/-!
# The keyword search

The keyword search of a table gives the records that mention the keyword, in the order in which
they were stored and as many as the limit allows.

- `Record.Mentions`: the keyword occurs in the code or in the name.
- `searchRecords_eq_ok`: the search on a plain list of records.
- `Session.keyword_performAll`: the search of a table, after all events.
- `Session.keyword_of_noncharacter`: a character that is found in place of another one.
-/

namespace CodeSearch

open Pattern (Alike IsReplaced Occurs SameLetter)

/-! ## Records that mention a keyword -/

/-- The keyword occurs in the code or in the name of the record. -/
def Record.Mentions (alike : Char → Char → Prop) (record : Record) (keyword : String) : Prop :=
  Occurs alike keyword.toList record.code.toList ∨
    Occurs alike keyword.toList record.chunkName.toList

instance (record : Record) (keyword : String) : Decidable (record.Mentions Alike keyword) :=
  inferInstanceAs (Decidable (_ ∨ _))

namespace Record

variable {record : Record} {keyword : String}

/-- No text of the record that is searched holds a NUL, which would end it early. -/
def IsSearchable (record : Record) : Prop :=
  '\x00' ∉ record.code.toList ∧ '\x00' ∉ record.chunkName.toList

instance (record : Record) : Decidable record.IsSearchable :=
  inferInstanceAs (Decidable (_ ∧ _))

theorem mentions_empty (alike : Char → Char → Prop) (record : Record) :
    record.Mentions alike "" :=
  Or.inl (Pattern.occurs_nil alike record.code.toList)

theorem Mentions.imp {alike other : Char → Char → Prop}
    (himp : ∀ a ∈ keyword.toList, ∀ b, alike a b → other a b) (h : record.Mentions alike keyword) :
    record.Mentions other keyword :=
  Or.imp (Occurs.imp himp) (Occurs.imp himp) h

/-- Only replaced characters of the keyword make a difference. -/
theorem mentions_alike_iff (h : ∀ a ∈ keyword.toList, ¬ IsReplaced a) :
    record.Mentions Alike keyword ↔ record.Mentions SameLetter keyword := by
  constructor
  · refine Mentions.imp fun a ha b halike => ?_
    exact halike.resolve_right fun hreplaced => h a ha hreplaced.1
  · exact Mentions.imp fun a _ b hsame => Or.inl hsame

/-- An entry is found if its record mentions the keyword. -/
theorem entryMatches_iff (hkeyword : '\x00' ∉ keyword.toList) (hrecord : record.IsSearchable) :
    Handle.entryMatches (Pattern.containing keyword.toList) record.toEntry = true ↔
      record.Mentions Alike keyword := by
  rw [Handle.entryMatches, Bool.or_eq_true, Pattern.matchesText_containing_iff hkeyword hrecord.1,
    Pattern.matchesText_containing_iff hkeyword hrecord.2, Mentions]

end Record

/-! ## The search -/

namespace Handle

variable {α : Type} {limit : Nat}

theorem takeLimit_of_lt (h : limit < 2 ^ 63) (items : List α) :
    takeLimit limit items = items.take limit := if_pos h

theorem takeLimit_of_le (h : 2 ^ 63 ≤ limit) (items : List α) :
    takeLimit limit items = items := if_neg (Nat.not_lt.mpr h)

end Handle

/-- The search gives the records that mention the keyword. -/
theorem searchRecords_eq_ok {keyword : String} {records : List Record}
    (hshort : Pattern.isTooLong (Pattern.containing keyword.toList) = false)
    (hkeyword : '\x00' ∉ keyword.toList) (hrecords : ∀ record ∈ records, record.IsSearchable)
    (limit : Nat) :
    searchRecords keyword limit records =
      .ok (Handle.takeLimit limit
        (records.filter fun record => record.Mentions Alike keyword)) := by
  have hfound : records.filter (fun record =>
      Handle.entryMatches (Pattern.containing keyword.toList) record.toEntry) =
      records.filter fun record => record.Mentions Alike keyword := by
    refine List.filter_congr fun record hrecord => ?_
    rw [Bool.eq_iff_iff, decide_eq_true_eq]
    exact Record.entryMatches_iff hkeyword (hrecords record hrecord)
  rw [searchRecords, hshort, Bool.false_and, if_neg Bool.false_ne_true, hfound]
  by_cases hlimit : limit = 0
  · rw [if_pos hlimit, hlimit]
    rfl
  · rw [if_neg hlimit]

namespace Session

/-- Whatever is opened and stored in the database of a new table, the keyword search through a
handle of the table gives the records that mention the keyword, oldest first: at most as many as
the limit says, and all of them if the limit is `2 ^ 63` or more. Characters of the keyword other
than letters of ASCII stand for themselves alone, save for the replacement character and the two
that are read as it. -/
theorem keyword_performAll {options : StoreOptions} {start after : Database} {first : Handle}
    (hchunks : start.table? options.tableName = none)
    (hvectors : start.table? (Database.vectorName options.tableName) = none)
    (hopen : Handle.openTable options start = (after, .ok first)) (events : List Event) :
    let begun : Session := { database := after, handles := [first] }
    let session := begun.performAll events
    let records := (begun.ledgerAfter options.tableName {} events).records
    ∀ handle ∈ session.handles,
      Database.fold handle.tableName = Database.fold options.tableName →
      ∀ keyword, Pattern.isTooLong (Pattern.containing keyword.toList) = false →
      '\x00' ∉ keyword.toList → (∀ record ∈ records, record.IsSearchable) →
      let found := records.filter fun record => record.Mentions Alike keyword
      (∀ limit, limit < 2 ^ 63 →
        handle.keyword keyword limit session.database = .ok (found.take limit)) ∧
      (∀ limit, 2 ^ 63 ≤ limit → handle.keyword keyword limit session.database = .ok found) ∧
      (keyword = "" → found = records) ∧
      ((∀ a ∈ keyword.toList, ¬ IsReplaced a) → ∀ record : Record,
        record.Mentions Alike keyword ↔ record.Mentions SameLetter keyword) ∧
      ∀ a, a.isAlpha = false → ¬ IsReplaced a → ∀ b, Alike a b ↔ a = b := by
  intro begun session records handle _ hname keyword hshort hkeyword hrecords found
  obtain ⟨dimensions, hkeeps, -⟩ := Keeps.of_openTable hchunks hvectors hopen events
  have hsearch : ∀ limit, handle.keyword keyword limit session.database =
      .ok (Handle.takeLimit limit found) := by
    intro limit
    rw [hkeeps.keyword_eq hname]
    exact searchRecords_eq_ok hshort hkeyword hrecords limit
  refine ⟨?_, ?_, ?_, ?_, ?_⟩
  · intro limit hlimit
    rw [hsearch, Handle.takeLimit_of_lt hlimit]
  · intro limit hlimit
    rw [hsearch, Handle.takeLimit_of_le hlimit]
  · rintro rfl
    refine List.filter_eq_self.mpr fun record _ => ?_
    exact decide_eq_true (record.mentions_empty Alike)
  · intro hplain record
    exact Record.mentions_alike_iff hplain
  · intro a hletter hreplaced b
    exact Pattern.alike_iff_eq hletter hreplaced b

/-- Two records and a keyword that stands for itself: the first record has it in its code in other
letters, and the second one has something else in its place. -/
theorem keyword_performAll_of_percent :
    let options : StoreOptions := { dimensions := 1 }
    let record : Record :=
      { (default : Record) with id := "a", code := "It is 5%_A", embedding := [default] }
    let other : Record := { record with id := "b", code := "It is 55 A" }
    let session := performAll
      { database := (Handle.openTable options {}).1, handles := [options.handle .append] }
      [.storing 0 record, .storing 0 other]
    (options.handle .append).keyword "5%_a" 10 session.database = .ok [record] := by
  intro options record other session
  have hsearch := (keyword_performAll (by decide) (by decide) openTable_one
    [.storing 0 record, .storing 0 other] (options.handle .append) (by decide +kernel) rfl "5%_a"
    (by decide +kernel) (by decide +kernel) (by decide +kernel)).1 10 (by decide)
  rw [hsearch]
  decide +kernel

/-- A record whose code is the replacement character is found by a noncharacter that is read as it,
though neither its code nor its name has this character or another case of it. -/
theorem keyword_of_noncharacter :
    let options : StoreOptions := { dimensions := 1 }
    let record : Record :=
      { (default : Record) with id := "a", code := "\uFFFD", embedding := [default] }
    let begun : Session :=
      { database := (Handle.openTable options {}).1, handles := [options.handle .append] }
    let session := begun.performAll [.storing 0 record]
    (begun.ledgerAfter options.tableName {} [.storing 0 record]).records = [record] ∧
      record.IsSearchable ∧ '\x00' ∉ "\uFFFE".toList ∧
      Pattern.isTooLong (Pattern.containing "\uFFFE".toList) = false ∧
      (options.handle .append).keyword "\uFFFE" 10 session.database = .ok [record] ∧
      ¬ record.Mentions SameLetter "\uFFFE" := by
  intro options record begun session
  refine ⟨?_, by decide, by decide, by decide +kernel, ?_, ?_⟩
  · decide +kernel
  · decide +kernel
  · rintro (h | h)
    · obtain ⟨c, hc, hsame⟩ := Pattern.occurs_singleton_iff.mp h
      have hcode : record.code.toList = ['\uFFFD'] := by decide
      rw [hcode, List.mem_singleton] at hc
      subst hc
      exact absurd hsame (by decide)
    · obtain ⟨c, hc, -⟩ := Pattern.occurs_singleton_iff.mp h
      exact absurd hc List.not_mem_nil

end Session

end CodeSearch
