import CodeSearch.Extract.Declaration
import CodeSearch.Proofs.Text.Languages

/-!
# Shapes as regular languages

The shape of a declaration is a regular expression with one group, the name. Here the readers of the
shapes are compared with the languages of the expressions: nothing is lost by never going back.

- `Shape.before`, `Shape.behind`: the languages of what stands before the name and behind it.
- `Shape.name?_eq_some_iff`: a shape finds a name exactly if the text starts with what stands before
  it, the name and what stands behind it.
- `exists_of_leftmost?`, `isSome_leftmost?_iff`: looking for the leftmost place.
-/

namespace CodeSearch.Extract

open Text (starOf plusOf Starts BeginsOutside)

/-! ## Classes of characters -/

/-- No blank character is part of a word. -/
theorem isWord_of_isBlank {c : Char} (h : Text.isBlank c = true) : Text.isWord c = false := by
  have hcodes : ∀ code ∈ List.range' 9 5 ++ [0x20, 0x85, 0xA0, 0x1680] ++ List.range' 0x2000 11 ++
      [0x2028, 0x2029, 0x202F, 0x205F, 0x3000], Text.isWord (Char.ofNat code) = false := by
    decide +kernel
  have hcode := hcodes c.toNat ?_
  · rwa [Char.ofNat_toNat] at hcode
  · simp only [Text.isBlank, Bool.or_eq_true, Bool.and_eq_true, decide_eq_true_eq, beq_iff_eq] at h
    simp only [List.mem_append, List.mem_range'_1, List.mem_cons, List.not_mem_nil]
    omega

theorem isBlank_of_isWord {c : Char} (h : Text.isWord c = true) : Text.isBlank c = false := by
  by_contra hblank
  rw [isWord_of_isBlank (Bool.eq_true_of_not_eq_false hblank)] at h
  cases h

/-! ## Languages of the parts -/

/-- An opening parenthesis and everything up to the first closing one. -/
def parameterList : TextLanguage := {['(']} * starOf (· != ')') * {[')']}

/-- A type from its colon on, or nothing. -/
def typeNote : TextLanguage := 1 + {[':']} * starOf (· != '=')

/-- The word `async` and the blanks behind it, or nothing. -/
def asyncNote : TextLanguage := 1 + {['a', 's', 'y', 'n', 'c']} * plusOf Text.isBlank

section

variable {next : TextLanguage} {text : List Char}

theorem after?_eq_some_iff {word rest : List Char} :
    after? word text = some rest ↔ word ++ rest = text := by
  rw [after?, Option.ite_none_right_eq_some, List.isPrefixOf_iff_prefix]
  constructor
  · rintro ⟨⟨more, rfl⟩, hrest⟩
    rw [List.drop_left] at hrest
    rw [Option.some.inj hrest]
  · rintro rfl
    exact ⟨List.prefix_append word rest, by rw [List.drop_left]⟩

theorem blanks?_eq_some_iff {rest : List Char} :
    blanks? text = some rest ↔
      ∃ c more, text = c :: more ∧ Text.isBlank c = true ∧ skipBlanks more = rest := by
  cases text with
  | nil => simp [blanks?]
  | cons c text => simp [blanks?]

theorem starts_after?_mul {word : List Char} :
    Starts ({word} * next) text ↔ ∃ rest, after? word text = some rest ∧ Starts next rest := by
  simp only [after?_eq_some_iff]
  exact Text.starts_singleton_mul

theorem starts_skipBlanks_mul (h : BeginsOutside Text.isBlank next) :
    Starts (starOf Text.isBlank * next) text ↔ Starts next (skipBlanks text) :=
  Text.starts_star_mul h

theorem starts_blanks?_mul (h : BeginsOutside Text.isBlank next) :
    Starts (plusOf Text.isBlank * next) text ↔
      ∃ rest, blanks? text = some rest ∧ Starts next rest := by
  rw [Text.starts_plus_mul h]
  simp only [blanks?_eq_some_iff]
  constructor
  · rintro ⟨c, more, htext, hc, hrest⟩
    exact ⟨_, ⟨c, more, htext, hc, rfl⟩, hrest⟩
  · rintro ⟨_, ⟨c, more, htext, hc, rfl⟩, hrest⟩
    exact ⟨c, more, htext, hc, hrest⟩

/-- A keyword and the blanks behind it. -/
theorem starts_keyword_mul {word : List Char} (h : BeginsOutside Text.isBlank next) :
    Starts ({word} * plusOf Text.isBlank * next) text ↔
      ∃ rest, (after? word text).bind blanks? = some rest ∧ Starts next rest := by
  rw [mul_assoc, starts_after?_mul]
  simp only [starts_blanks?_mul h, Option.bind_eq_some_iff]
  constructor
  · rintro ⟨spaced, hafter, rest, hblanks, hrest⟩
    exact ⟨rest, ⟨spaced, hafter, hblanks⟩, hrest⟩
  · rintro ⟨rest, ⟨spaced, hafter, hblanks⟩, hrest⟩
    exact ⟨spaced, hafter, rest, hblanks, hrest⟩

/-- Everything up to a character, which is then passed over. -/
theorem starts_upTo_mul {c : Char} :
    Starts (starOf (· != c) * ({[c]} * next)) text ↔
      ∃ d rest, text.dropWhile (· != c) = d :: rest ∧ Starts next rest := by
  have hstop : BeginsOutside (· != c) ({[c]} * next) :=
    (Text.beginsOutside_singleton (by simp)).mul
  rw [Text.starts_star_mul hstop, Text.starts_singleton_mul]
  constructor
  · rintro ⟨rest, hdrop, hrest⟩
    exact ⟨c, rest, hdrop.symm, hrest⟩
  · rintro ⟨d, rest, hdrop, hrest⟩
    have hd : d = c := by
      have hnot := List.head?_dropWhile_not (· != c) text
      rw [hdrop] at hnot
      simpa using hnot
    exact ⟨rest, by rw [hdrop, hd]; rfl, hrest⟩

theorem starts_parameters?_mul :
    Starts (parameterList * next) text ↔
      ∃ rest, parameters? text = some rest ∧ Starts next rest := by
  rw [parameterList, mul_assoc, mul_assoc, Text.starts_singleton_mul]
  simp only [starts_upTo_mul]
  constructor
  · rintro ⟨inner, rfl, d, rest, hdrop, hrest⟩
    exact ⟨rest, by simp [parameters?, hdrop], hrest⟩
  · rintro ⟨rest, hparameters, hrest⟩
    unfold parameters? at hparameters
    split at hparameters
    · next inner =>
      split at hparameters
      · next d more hdrop =>
        cases hparameters
        exact ⟨inner, rfl, d, rest, hdrop, hrest⟩
      · cases hparameters
    · cases hparameters

theorem beginsOutside_parameterList_mul {p : Char → Bool} (h : p '(' = false) :
    BeginsOutside p (parameterList * next) := by
  rw [parameterList, mul_assoc, mul_assoc]
  exact (Text.beginsOutside_singleton h).mul

theorem starts_assignment?_mul :
    Starts (starOf Text.isBlank * (typeNote * ({['=']} * next))) text ↔
      ∃ rest, assignment? text = some rest ∧ Starts next rest := by
  have hequals : BeginsOutside Text.isBlank ({['=']} * next) :=
    (Text.beginsOutside_singleton (by decide)).mul
  have hcolon : BeginsOutside Text.isBlank ({[':']} * starOf (· != '=')) :=
    (Text.beginsOutside_singleton (by decide)).mul
  rw [typeNote, starts_skipBlanks_mul (hcolon.optional_mul hequals), Text.starts_optional_mul,
    mul_assoc, Text.starts_singleton_mul, Text.starts_singleton_mul]
  simp only [starts_upTo_mul]
  constructor
  · rintro (⟨rest, hskip, hrest⟩ | ⟨note, hskip, d, rest, hdrop, hrest⟩)
    · refine ⟨rest, ?_, hrest⟩
      rw [assignment?, ← hskip]
      rfl
    · refine ⟨rest, ?_, hrest⟩
      rw [assignment?, ← hskip]
      simp only [List.cons_append, List.nil_append, hdrop]
  · rintro ⟨rest, hassignment, hrest⟩
    unfold assignment? at hassignment
    split at hassignment
    · next value hskip =>
      cases hassignment
      exact Or.inl ⟨_, hskip.symm, hrest⟩
    · next note hskip =>
      split at hassignment
      · next d more hdrop =>
        cases hassignment
        exact Or.inr ⟨note, hskip.symm, d, rest, hdrop, hrest⟩
      · cases hassignment
    · cases hassignment

theorem starts_skipAsync_mul :
    Starts (asyncNote * (parameterList * next)) text ↔
      Starts (parameterList * next) (skipAsync text) := by
  rw [asyncNote, Text.starts_optional_mul,
    starts_keyword_mul (beginsOutside_parameterList_mul (by decide)), skipAsync]
  cases hasync : (after? ['a', 's', 'y', 'n', 'c'] text).bind blanks? with
  | none => simp
  | some rest =>
    constructor
    · rintro (hrest | ⟨_, hsome, hrest⟩)
      · -- A text that starts with a parenthesis does not start with the word.
        obtain ⟨c, more, rfl, hc⟩ :=
          (beginsOutside_parameterList_mul (p := (· != '(')) rfl).head_eq_false hrest
        obtain rfl : c = '(' := by simpa using hc
        cases hasync
      · cases hsome
        exact hrest
    · exact fun hrest => Or.inr ⟨rest, rfl, hrest⟩

/-- A name ends where a character stands that no word has. -/
theorem starts_word?_mul {name : List Char} (hname : name ∈ plusOf Text.isWord)
    (h : BeginsOutside Text.isWord next) :
    Starts ({name} * next) text ↔ ∃ rest, word? text = some (name, rest) ∧ Starts next rest := by
  rw [Text.starts_singleton_mul]
  constructor
  · rintro ⟨rest, rfl, hrest⟩
    refine ⟨rest, ?_, hrest⟩
    obtain ⟨c, more, rfl, hc⟩ := h.head_eq_false hrest
    have htake : (name ++ c :: more).takeWhile Text.isWord = name := by
      rw [List.takeWhile_append_of_pos hname.2, List.takeWhile_cons_of_neg (by simp [hc]),
        List.append_nil]
    have hdrop : (name ++ c :: more).dropWhile Text.isWord = c :: more := by
      rw [List.dropWhile_append_of_pos hname.2, List.dropWhile_cons_of_neg (by simp [hc])]
    rw [word?, htake, hdrop]
    split
    · exact absurd rfl hname.1
    · rfl
  · rintro ⟨rest, hword, hrest⟩
    refine ⟨rest, ?_, hrest⟩
    rw [word?] at hword
    split at hword
    · cases hword
    · cases hword
      exact List.takeWhile_append_dropWhile

theorem mem_plusOf_of_word? {name rest : List Char} (h : word? text = some (name, rest)) :
    name ∈ plusOf Text.isWord := by
  rw [word?] at h
  split at h
  · cases h
  · next hne =>
    cases h
    exact ⟨hne, fun c hc => List.mem_takeWhile_imp hc⟩

theorem parametersThen_iff {opener : Char} (hopener : Text.isBlank opener = false) :
    parametersThen opener text = true ↔
      Starts (parameterList * (starOf Text.isBlank * {[opener]})) text := by
  have hstop : BeginsOutside Text.isBlank {[opener]} := Text.beginsOutside_singleton hopener
  rw [starts_parameters?_mul, parametersThen]
  simp only [starts_skipBlanks_mul hstop, Text.starts_singleton]
  cases parameters? text with
  | none => simp
  | some rest => simp

theorem arrowThen_iff {opener : Char} (hopener : Text.isBlank opener = false) :
    arrowThen opener text = true ↔
      Starts (parameterList * (starOf Text.isBlank * ({['=', '>']} *
        (starOf Text.isBlank * {[opener]})))) text := by
  have hstop : BeginsOutside Text.isBlank {[opener]} := Text.beginsOutside_singleton hopener
  have harrow : BeginsOutside Text.isBlank ({['=', '>']} * (starOf Text.isBlank * {[opener]})) :=
    (Text.beginsOutside_singleton (by decide)).mul
  rw [starts_parameters?_mul, arrowThen]
  simp only [starts_skipBlanks_mul harrow, starts_after?_mul, starts_skipBlanks_mul hstop,
    Text.starts_singleton]
  cases parameters? text with
  | none => simp
  | some rest =>
    cases harrowed : after? ['=', '>'] (skipBlanks rest) with
    | none => simp [harrowed]
    | some body => simp [harrowed]

end

/-! ## Languages of the shapes -/

/-- What stands before the name. -/
def Shape.before : Shape → TextLanguage
  | .function => {functionWord} * plusOf Text.isBlank
  | .arrow _ => {['c', 'o', 'n', 's', 't']} * plusOf Text.isBlank
  | .exportedFunction =>
    {['e', 'x', 'p', 'o', 'r', 't']} * plusOf Text.isBlank *
      ({['d', 'e', 'f', 'a', 'u', 'l', 't']} * plusOf Text.isBlank) *
      ({functionWord} * plusOf Text.isBlank)
  | .method => 1

/-- What stands behind the name. -/
def Shape.behind : Shape → TextLanguage
  | .arrow opener =>
    starOf Text.isBlank * typeNote * {['=']} * starOf Text.isBlank * asyncNote * parameterList *
      starOf Text.isBlank * {['=', '>']} * starOf Text.isBlank * {[opener]}
  | _ => starOf Text.isBlank * parameterList * starOf Text.isBlank * {['\x7b']}

/-- What stands behind a name does not go on with it. -/
theorem Shape.beginsOutside_behind (shape : Shape) : BeginsOutside Text.isWord shape.behind := by
  have hblank : ∀ c, Text.isBlank c = true → Text.isWord c = false := fun _ => isWord_of_isBlank
  have hlist : ∀ {next}, BeginsOutside Text.isWord (starOf Text.isBlank * (parameterList * next)) :=
    (beginsOutside_parameterList_mul (by decide)).star_mul hblank
  have hassignment : ∀ {next},
      BeginsOutside Text.isWord (starOf Text.isBlank * (typeNote * ({['=']} * next))) := by
    intro next
    refine Text.BeginsOutside.star_mul hblank (Text.BeginsOutside.optional_mul ?_ ?_)
    · exact (Text.beginsOutside_singleton (by decide)).mul
    · exact (Text.beginsOutside_singleton (by decide)).mul
  cases shape with
  | arrow opener =>
    simp only [Shape.behind, mul_assoc]
    exact hassignment
  | function | exportedFunction | method =>
    simp only [Shape.behind, mul_assoc]
    exact hlist

section

variable {text : List Char}

theorem starts_behind_method_iff :
    Starts Shape.method.behind text ↔ parametersThen '\x7b' (skipBlanks text) = true := by
  rw [Shape.behind, mul_assoc, mul_assoc,
    starts_skipBlanks_mul (beginsOutside_parameterList_mul (by decide)),
    parametersThen_iff (by decide)]
  intro opener h
  cases h

theorem starts_behind_arrow_iff {opener : Char} (hopener : Text.isBlank opener = false) :
    Starts (Shape.arrow opener).behind text ↔
      ∃ value, assignment? text = some value ∧
        arrowThen opener (skipAsync (skipBlanks value)) = true := by
  have hvalue : ∀ {next}, BeginsOutside Text.isBlank (asyncNote * (parameterList * next)) := by
    intro next
    refine Text.BeginsOutside.optional_mul ?_ (beginsOutside_parameterList_mul (by decide))
    exact (Text.beginsOutside_singleton (by decide)).mul
  simp only [Shape.behind, mul_assoc]
  rw [starts_assignment?_mul]
  simp only [starts_skipBlanks_mul hvalue, starts_skipAsync_mul, arrowThen_iff hopener]

end

/-! ## Names -/

section

variable {admits : List Char → Bool} {text name : List Char}

theorem beginsOutside_name_mul {next : TextLanguage} (hname : name ∈ plusOf Text.isWord) :
    BeginsOutside Text.isBlank ({name} * next) := by
  obtain ⟨hne, hword⟩ := hname
  cases name with
  | nil => exact absurd rfl hne
  | cons c name =>
    exact (Text.beginsOutside_singleton (isBlank_of_isWord (hword c List.mem_cons_self))).mul

theorem namedBody?_eq_some_iff :
    namedBody? admits text = some name ↔
      admits name = true ∧ name ∈ plusOf Text.isWord ∧
        Starts ({name} * Shape.method.behind) text := by
  constructor
  · intro h
    rw [namedBody?] at h
    split at h
    · next found rest hword =>
      obtain ⟨hbody, hfound⟩ := Option.ite_none_right_eq_some.mp h
      obtain rfl := Option.some.inj hfound
      obtain ⟨hadmits, hparameters⟩ := Bool.and_eq_true_iff.mp hbody
      have hname := mem_plusOf_of_word? hword
      exact ⟨hadmits, hname, (starts_word?_mul hname (Shape.beginsOutside_behind _)).mpr
        ⟨rest, hword, starts_behind_method_iff.mpr hparameters⟩⟩
    · cases h
  · rintro ⟨hadmits, hname, hstarts⟩
    obtain ⟨rest, hword, hrest⟩ :=
      (starts_word?_mul hname (Shape.beginsOutside_behind _)).mp hstarts
    rw [namedBody?, hword]
    simp [hadmits, starts_behind_method_iff.mp hrest]

theorem declaredFunction?_eq_some_iff :
    declaredFunction? admits text = some name ↔
      admits name = true ∧ name ∈ plusOf Text.isWord ∧
        Starts (Shape.function.before * ({name} * Shape.function.behind)) text := by
  rw [declaredFunction?, Option.bind_eq_some_iff]
  constructor
  · rintro ⟨rest, hkeyword, hbody⟩
    obtain ⟨hadmits, hname, hstarts⟩ := namedBody?_eq_some_iff.mp hbody
    exact ⟨hadmits, hname, (starts_keyword_mul (beginsOutside_name_mul hname)).mpr
      ⟨rest, hkeyword, hstarts⟩⟩
  · rintro ⟨hadmits, hname, hstarts⟩
    obtain ⟨rest, hkeyword, hrest⟩ :=
      (starts_keyword_mul (beginsOutside_name_mul hname)).mp hstarts
    exact ⟨rest, hkeyword, namedBody?_eq_some_iff.mpr ⟨hadmits, hname, hrest⟩⟩

theorem declaredExport?_eq_some_iff :
    declaredExport? admits text = some name ↔
      admits name = true ∧ name ∈ plusOf Text.isWord ∧
        Starts (Shape.exportedFunction.before * ({name} * Shape.exportedFunction.behind)) text := by
  have hdefault : ∀ {next}, BeginsOutside Text.isBlank
      ({['d', 'e', 'f', 'a', 'u', 'l', 't']} * plusOf Text.isBlank * next) :=
    (Text.beginsOutside_singleton (by decide)).mul.mul
  have hfunction : ∀ {next}, BeginsOutside Text.isBlank
      ({functionWord} * plusOf Text.isBlank * next) :=
    (Text.beginsOutside_singleton (by decide)).mul.mul
  rw [declaredExport?, Option.bind_eq_some_iff, Shape.before, mul_assoc _ (_ * _) _,
    mul_assoc _ (_ * _) _, starts_keyword_mul hdefault]
  constructor
  · rintro ⟨rest, hkeywords, hdeclared⟩
    obtain ⟨exported, hexport, hkeyword⟩ := Option.bind_eq_some_iff.mp hkeywords
    obtain ⟨hadmits, hname, hstarts⟩ := declaredFunction?_eq_some_iff.mp hdeclared
    exact ⟨hadmits, hname, exported, hexport,
      (starts_keyword_mul hfunction).mpr ⟨rest, hkeyword, hstarts⟩⟩
  · rintro ⟨hadmits, hname, exported, hexport, hstarts⟩
    obtain ⟨rest, hkeyword, hrest⟩ := (starts_keyword_mul hfunction).mp hstarts
    exact ⟨rest, Option.bind_eq_some_iff.mpr ⟨exported, hexport, hkeyword⟩,
      declaredFunction?_eq_some_iff.mpr ⟨hadmits, hname, hrest⟩⟩

theorem declaredArrow?_eq_some_iff {opener : Char} (hopener : Text.isBlank opener = false) :
    declaredArrow? opener admits text = some name ↔
      admits name = true ∧ name ∈ plusOf Text.isWord ∧
        Starts ((Shape.arrow opener).before * ({name} * (Shape.arrow opener).behind)) text := by
  constructor
  · intro h
    rw [declaredArrow?] at h
    split at h
    · next found rest hfound =>
      split at h
      · next value hvalue =>
        obtain ⟨hbody, hname⟩ := Option.ite_none_right_eq_some.mp h
        obtain rfl := Option.some.inj hname
        obtain ⟨hadmits, harrow⟩ := Bool.and_eq_true_iff.mp hbody
        obtain ⟨spaced, hkeyword, hword⟩ := Option.bind_eq_some_iff.mp hfound
        have hname := mem_plusOf_of_word? hword
        refine ⟨hadmits, hname, (starts_keyword_mul (beginsOutside_name_mul hname)).mpr
          ⟨spaced, hkeyword, ?_⟩⟩
        exact (starts_word?_mul hname (Shape.beginsOutside_behind _)).mpr
          ⟨rest, hword, (starts_behind_arrow_iff hopener).mpr ⟨value, hvalue, harrow⟩⟩
      · cases h
    · cases h
  · rintro ⟨hadmits, hname, hstarts⟩
    obtain ⟨spaced, hkeyword, hspaced⟩ :=
      (starts_keyword_mul (beginsOutside_name_mul hname)).mp hstarts
    obtain ⟨rest, hword, hrest⟩ :=
      (starts_word?_mul hname (Shape.beginsOutside_behind _)).mp hspaced
    obtain ⟨value, hvalue, harrow⟩ := (starts_behind_arrow_iff hopener).mp hrest
    rw [declaredArrow?, hkeyword, Option.bind_some, hword]
    simp [hvalue, hadmits, harrow]

/-- A shape finds a name that is admitted exactly if the text starts with what stands before the
name, the name, and what stands behind it. -/
theorem Shape.name?_eq_some_iff {shape : Shape}
    (hopener : ∀ opener, shape = .arrow opener → Text.isBlank opener = false) :
    shape.name? admits text = some name ↔
      admits name = true ∧ name ∈ plusOf Text.isWord ∧
        Starts (shape.before * ({name} * shape.behind)) text := by
  cases shape with
  | function => exact declaredFunction?_eq_some_iff
  | arrow opener => exact declaredArrow?_eq_some_iff (hopener opener rfl)
  | exportedFunction => exact declaredExport?_eq_some_iff
  | method =>
    rw [Shape.before, one_mul]
    exact namedBody?_eq_some_iff

end

/-! ## The leftmost place -/

section

variable {read : List Char → Option (List Char)} {text name : List Char}

/-- What is found at the leftmost place is found at no place before it. -/
theorem exists_of_leftmost? (h : leftmost? read text = some name) :
    ∃ skipped rest, text = skipped ++ rest ∧ read rest = some name ∧
      ∀ start last, skipped = start ++ last → last ≠ [] → read (last ++ rest) = none := by
  induction text with
  | nil => exact ⟨[], [], rfl, h, by simp⟩
  | cons c text ih =>
    rw [leftmost?] at h
    cases hhere : read (c :: text) with
    | some found =>
      rw [hhere] at h
      cases h
      exact ⟨[], c :: text, rfl, hhere, by simp⟩
    | none =>
      rw [hhere] at h
      obtain ⟨skipped, rest, rfl, hread, hleft⟩ := ih h
      refine ⟨c :: skipped, rest, rfl, hread, ?_⟩
      intro start last hskipped hlast
      cases start with
      | nil =>
        obtain rfl : c :: skipped = last := hskipped
        exact hhere
      | cons d start => exact hleft start last (List.cons.inj hskipped).2 hlast

theorem isSome_leftmost?_iff :
    (leftmost? read text).isSome = true ↔
      ∃ skipped rest, text = skipped ++ rest ∧ (read rest).isSome = true := by
  constructor
  · intro h
    obtain ⟨name, hname⟩ := Option.isSome_iff_exists.mp h
    obtain ⟨skipped, rest, heq, hread, -⟩ := exists_of_leftmost? hname
    exact ⟨skipped, rest, heq, by rw [hread]; rfl⟩
  · rintro ⟨skipped, rest, rfl, hread⟩
    induction skipped with
    | nil =>
      cases rest with
      | nil => exact hread
      | cons c rest =>
        obtain ⟨name, hname⟩ := Option.isSome_iff_exists.mp hread
        rw [List.nil_append, leftmost?, hname]
        rfl
    | cons c skipped ih =>
      rw [List.cons_append, leftmost?]
      split
      · rfl
      · exact ih

end

end CodeSearch.Extract
