import CodeSearch.Proofs.Extract.Shapes

/-!
# Declarations and their names

A line is a declaration by the first pattern that fits it somewhere. Whichever it is, the name is a
whole word of the line. The patterns for functions and those for components are two lists, and a
line that one of the first fits is one for the other list as well, up to the capital of the name.

- `IsWordOf`: a run of word characters of a text that is not part of a longer one.
- `isWordOf_of_declaration?`: the name of a declaration is such a run.
- `exists_function_of_component`: a line with a component declares a function, not a method.
- `exists_component_of_function`: a function with a capital, not a method, is a component.
-/

namespace CodeSearch.Extract

open Text (plusOf Starts)

/-! ## Words -/

/-- The text is made of word characters. -/
def IsName (name : List Char) : Prop := ∀ c ∈ name, Text.isWord c = true

/-- The word is a run of word characters of a text, and no longer run contains it. -/
structure IsWordOf (word text : List Char) : Prop where
  ne_nil : word ≠ []
  isName : IsName word
  maximal : ∃ before after, text = before ++ word ++ after ∧
    (∀ c ∈ before.getLast?, Text.isWord c = false) ∧ ∀ c ∈ after.head?, Text.isWord c = false

/-! ## Patterns -/

/-- Whether a pattern takes a name. -/
def LinePattern.admits (pattern : LinePattern) (name : List Char) : Bool :=
  !pattern.capitalised || startsWithCapital name

/-- The body of an arrow function does not open with a blank, and any name will do for a method. -/
structure LinePattern.IsRegular (pattern : LinePattern) : Prop where
  opener : ∀ opener, pattern.shape = .arrow opener → Text.isBlank opener = false
  method : pattern.shape = .method → pattern.capitalised = false

theorem LinePattern.isRegular_of_mem :
    ∀ pattern ∈ functionPatterns ++ componentPatterns, pattern.IsRegular := by
  intro pattern h
  simp only [functionPatterns, componentPatterns, List.cons_append, List.nil_append,
    List.mem_cons, List.not_mem_nil, or_false] at h
  rcases h with rfl | rfl | rfl | rfl | rfl | rfl | rfl | rfl
  all_goals
    constructor
    · intro opener hshape
      cases hshape <;> decide
    · intro hshape
      cases hshape <;> rfl

theorem isRegular_of_function : ∀ pattern ∈ functionPatterns, pattern.IsRegular :=
  fun pattern h => pattern.isRegular_of_mem (List.mem_append_left _ h)

theorem isRegular_of_component : ∀ pattern ∈ componentPatterns, pattern.IsRegular :=
  fun pattern h => pattern.isRegular_of_mem (List.mem_append_right _ h)

/-- What stands before a name is nothing, in front of a method, or it ends with a blank. -/
theorem Shape.mem_before {shape : Shape} {text : List Char} (h : text ∈ shape.before) :
    (shape = .method ∧ text = []) ∨ ∃ start c, text = start ++ [c] ∧ Text.isBlank c = true := by
  have hblank : ∀ {language : TextLanguage}, text ∈ language * plusOf Text.isBlank →
      ∃ start c, text = start ++ [c] ∧ Text.isBlank c = true := by
    intro language hmem
    obtain ⟨first, -, run, ⟨hne, hrun⟩, rfl⟩ := Language.mem_mul.mp hmem
    refine ⟨first ++ run.dropLast, run.getLast hne, ?_, hrun _ (List.getLast_mem hne)⟩
    rw [List.append_assoc, List.dropLast_append_getLast]
  cases shape with
  | method => exact Or.inl ⟨rfl, h⟩
  | function | arrow opener => exact Or.inr (hblank h)
  | exportedFunction =>
    rw [Shape.before, ← mul_assoc] at h
    exact Or.inr (hblank h)

section

variable {pattern : LinePattern} {line name : List Char}

theorem LinePattern.admits_of_name? (hpattern : pattern.IsRegular)
    (h : pattern.name? line = some name) : pattern.admits name = true := by
  obtain ⟨skipped, rest, -, hread, -⟩ := exists_of_leftmost? h
  exact ((Shape.name?_eq_some_iff hpattern.opener).mp hread).1

/-- Where a method can be read, it can be read with a longer name from a word character before. -/
theorem LinePattern.name?_cons_of_method (hpattern : pattern.IsRegular)
    (hmethod : pattern.shape = .method) {text : List Char} {c : Char} (hc : Text.isWord c = true)
    (h : pattern.shape.name? pattern.admits text = some name) :
    pattern.shape.name? pattern.admits (c :: text) = some (c :: name) := by
  obtain ⟨-, ⟨-, hname⟩, hstarts⟩ := (Shape.name?_eq_some_iff hpattern.opener).mp h
  refine (Shape.name?_eq_some_iff hpattern.opener).mpr ⟨?_, ?_, ?_⟩
  · rw [LinePattern.admits, hpattern.method hmethod]
    rfl
  · exact ⟨List.cons_ne_nil _ _, List.forall_mem_cons.mpr ⟨hc, hname⟩⟩
  · rw [hmethod, Shape.before, one_mul] at hstarts ⊢
    obtain ⟨after, rfl, hafter⟩ := Text.starts_singleton_mul.mp hstarts
    exact Text.starts_singleton_mul.mpr ⟨after, rfl, hafter⟩

/-- The name that a pattern finds is a whole word of the line. -/
theorem LinePattern.isWordOf_of_name? (hpattern : pattern.IsRegular)
    (h : pattern.name? line = some name) : IsWordOf name line := by
  obtain ⟨skipped, rest, rfl, hread, hleft⟩ := exists_of_leftmost? h
  obtain ⟨-, hname, hstarts⟩ := (Shape.name?_eq_some_iff hpattern.opener).mp hread
  obtain ⟨before, hbefore, middle, rfl, hmiddle⟩ := Text.starts_mul.mp hstarts
  obtain ⟨after, rfl, hafter⟩ := Text.starts_singleton_mul.mp hmiddle
  refine ⟨hname.1, hname.2, skipped ++ before, after, by simp, ?_, ?_⟩
  · rcases Shape.mem_before hbefore with ⟨hmethod, rfl⟩ | ⟨start, c, rfl, hc⟩
    · -- With a word character before it, the name would have been found earlier, and longer.
      intro c hlast
      rw [List.append_nil] at hlast
      obtain ⟨start, rfl⟩ := List.getLast?_eq_some_iff.mp hlast
      by_contra hc
      have hlonger := pattern.name?_cons_of_method hpattern hmethod
        (Bool.eq_true_of_not_eq_false hc) hread
      exact absurd ((hleft start [c] rfl (List.cons_ne_nil _ _)).symm.trans hlonger) (by simp)
    · intro d hlast
      rw [← List.append_assoc, List.getLast?_concat] at hlast
      cases hlast
      exact isWord_of_isBlank hc
  · obtain ⟨c, more, rfl, hc⟩ := (Shape.beginsOutside_behind _).head_eq_false hafter
    intro d hhead
    cases hhead
    exact hc

theorem LinePattern.isSome_name?_iff (hpattern : pattern.IsRegular) :
    (pattern.name? line).isSome = true ↔
      ∃ skipped rest, line = skipped ++ rest ∧ ∃ name, pattern.admits name = true ∧
        name ∈ plusOf Text.isWord ∧
        Starts (pattern.shape.before * ({name} * pattern.shape.behind)) rest := by
  rw [LinePattern.name?, isSome_leftmost?_iff]
  simp only [Option.isSome_iff_exists, Shape.name?_eq_some_iff hpattern.opener]
  rfl

end

/-! ## Declarations -/

section

variable {patterns before after : List LinePattern} {pattern : LinePattern} {line : List Char}

/-- A declaration is found by one of the patterns, and a method is not called like a control
keyword. -/
theorem exists_of_declaration? {declaration : List Char × String}
    (h : declaration? patterns line = some declaration) :
    (∃ pattern ∈ patterns, pattern.name? line = some declaration.1 ∧
      pattern.nodeType = declaration.2) ∧
    (declaration.2 = methodType → String.ofList declaration.1 ∉ controlWords) := by
  rw [declaration?] at h
  split at h
  · next name nodeType hmatch =>
    obtain ⟨hallowed, hfound⟩ := Option.ite_none_left_eq_some.mp h
    obtain rfl := Option.some.inj hfound
    obtain ⟨pattern, hpattern, hmatched⟩ := List.exists_of_findSome?_eq_some hmatch
    obtain ⟨_, hname, heq⟩ := Option.map_eq_some_iff.mp hmatched
    obtain ⟨rfl, rfl⟩ := Prod.mk.inj heq
    refine ⟨⟨pattern, hpattern, hname, rfl⟩, ?_⟩
    simpa using hallowed
  · cases h

/-- If a pattern fits a line, and neither it nor one before it is for methods, then the line is a
declaration, and not of a method. -/
theorem exists_declaration?_of_isSome (htypes : ∀ pattern ∈ before, pattern.nodeType ≠ methodType)
    (hpattern : pattern ∈ before) (h : (pattern.name? line).isSome = true) :
    ∃ declaration, declaration? (before ++ after) line = some declaration ∧
      declaration.2 ≠ methodType := by
  have hmatch : (firstMatch? before line).isSome = true := by
    rw [firstMatch?, List.findSome?_isSome_iff]
    exact ⟨pattern, hpattern, by rwa [Option.isSome_map]⟩
  obtain ⟨⟨name, nodeType⟩, hmatch⟩ := Option.isSome_iff_exists.mp hmatch
  obtain ⟨found, hfound, hname⟩ := List.exists_of_findSome?_eq_some hmatch
  obtain ⟨_, -, heq⟩ := Option.map_eq_some_iff.mp hname
  have htype : nodeType ≠ methodType := (Prod.mk.inj heq).2 ▸ htypes found hfound
  refine ⟨(name, nodeType), ?_, htype⟩
  rw [firstMatch?] at hmatch
  rw [declaration?, firstMatch?, List.findSome?_append, hmatch]
  simp [htype]

end

/-! ## Functions and components -/

section

variable {line : List Char} {declaration : List Char × String}

/-- The patterns for functions that are not for methods. -/
def declaringPatterns : List LinePattern := functionPatterns.take 3

theorem declaringPatterns_append :
    declaringPatterns ++ functionPatterns.drop 3 = functionPatterns :=
  List.take_append_drop 3 functionPatterns

/-- The name of a declaration is a whole word of the line. -/
theorem isWordOf_of_declaration? {patterns : List LinePattern}
    (hpatterns : ∀ pattern ∈ patterns, pattern.IsRegular)
    (h : declaration? patterns line = some declaration) : IsWordOf declaration.1 line := by
  obtain ⟨⟨pattern, hpattern, hname, -⟩, -⟩ := exists_of_declaration? h
  exact pattern.isWordOf_of_name? (hpatterns pattern hpattern) hname

/-- The name of a component starts with a capital. -/
theorem startsWithCapital_of_component
    (h : declaration? componentPatterns line = some declaration) :
    startsWithCapital declaration.1 = true := by
  obtain ⟨⟨pattern, hpattern, hname, -⟩, -⟩ := exists_of_declaration? h
  have hcapitalised : ∀ pattern ∈ componentPatterns, pattern.capitalised = true := by decide
  have hadmits := pattern.admits_of_name? (isRegular_of_component pattern hpattern) hname
  rwa [LinePattern.admits, hcapitalised pattern hpattern, Bool.not_true, Bool.false_or] at hadmits

/-- A pattern with the same shape, or with that of a function for that of an exported function, fits
the same lines if it takes any name. -/
theorem LinePattern.isSome_name?_of_wider {pattern wider : LinePattern}
    (hpattern : pattern.IsRegular) (hwider : wider.IsRegular) (hany : wider.capitalised = false)
    (hshape : wider.shape = pattern.shape ∨
      wider.shape = .function ∧ pattern.shape = .exportedFunction)
    (h : (pattern.name? line).isSome = true) : (wider.name? line).isSome = true := by
  obtain ⟨skipped, rest, rfl, name, -, hname, hstarts⟩ := (pattern.isSome_name?_iff hpattern).mp h
  have hadmits : wider.admits name = true := by
    rw [LinePattern.admits, hany]
    rfl
  rw [wider.isSome_name?_iff hwider]
  rcases hshape with hshape | ⟨hfunction, hexported⟩
  · exact ⟨skipped, rest, rfl, name, hadmits, hname, hshape ▸ hstarts⟩
  · -- The keywords of the export are passed over.
    rw [hexported, Shape.before, mul_assoc, Text.starts_mul] at hstarts
    obtain ⟨keywords, -, function, rfl, hfunctionStarts⟩ := hstarts
    refine ⟨skipped ++ keywords, function, by rw [List.append_assoc], name, hadmits, hname, ?_⟩
    rw [hfunction]
    exact hfunctionStarts

/-- A line with a component declares a function, and not a method. -/
theorem exists_function_of_component
    (h : declaration? componentPatterns line = some declaration) :
    ∃ function, declaration? functionPatterns line = some function ∧ function.2 ≠ methodType := by
  obtain ⟨⟨pattern, hpattern, hname, -⟩, -⟩ := exists_of_declaration? h
  have hpatterns : ∀ pattern ∈ componentPatterns, ∃ wider ∈ declaringPatterns,
      wider.capitalised = false ∧ (wider.shape = pattern.shape ∨
        wider.shape = .function ∧ pattern.shape = .exportedFunction) := by
    decide
  obtain ⟨wider, hwider, hany, hshape⟩ := hpatterns pattern hpattern
  have hmem : wider ∈ functionPatterns := List.mem_of_mem_take hwider
  rw [← declaringPatterns_append]
  refine exists_declaration?_of_isSome (by decide) hwider ?_
  exact pattern.isSome_name?_of_wider (isRegular_of_component pattern hpattern)
    (isRegular_of_function wider hmem) hany hshape (by rw [hname]; rfl)

/-- A line that declares a function whose name starts with a capital, and not a method, has a
component. -/
theorem exists_component_of_function
    (h : declaration? functionPatterns line = some declaration)
    (htype : declaration.2 ≠ methodType) (hcapital : startsWithCapital declaration.1 = true) :
    ∃ component, declaration? componentPatterns line = some component := by
  obtain ⟨⟨pattern, hpattern, hname, hnodeType⟩, -⟩ := exists_of_declaration? h
  have hpatterns : ∀ pattern ∈ functionPatterns, pattern.nodeType ≠ methodType →
      ∃ capitalised ∈ componentPatterns, capitalised.shape = pattern.shape := by
    decide
  obtain ⟨capitalised, hcapitalised, hshape⟩ :=
    hpatterns pattern hpattern (hnodeType.trans_ne htype)
  have hregular := isRegular_of_function pattern hpattern
  have hregular' := isRegular_of_component capitalised hcapitalised
  obtain ⟨skipped, rest, rfl, hread, -⟩ := exists_of_leftmost? hname
  obtain ⟨-, hword, hstarts⟩ := (Shape.name?_eq_some_iff hregular.opener).mp hread
  have hsome : (capitalised.name? (skipped ++ rest)).isSome = true := by
    refine (capitalised.isSome_name?_iff hregular').mpr ⟨skipped, rest, rfl, _, ?_, hword, ?_⟩
    · rw [LinePattern.admits, hcapital, Bool.or_true]
    · rwa [hshape]
  obtain ⟨component, hcomponent, -⟩ : ∃ component,
      declaration? (componentPatterns ++ []) (skipped ++ rest) = some component ∧
        component.2 ≠ methodType :=
    exists_declaration?_of_isSome (by decide) hcapitalised hsome
  exact ⟨component, hcomponent⟩

end

/-! ## Imports -/

/-- A line is an import exactly if it starts with the keyword and a blank. -/
theorem isImport_iff {line : List Char} (hline : '\n' ∉ line) :
    isImport line = true ↔
      ∃ c rest, line = "import".toList ++ c :: rest ∧ Text.isBlank c = true := by
  rw [isImport]
  constructor
  · intro h
    split at h
    · next rest hrest =>
      obtain ⟨spaced, hafter, hblanks⟩ := Option.bind_eq_some_iff.mp hrest
      obtain ⟨c, more, rfl, hc, -⟩ := blanks?_eq_some_iff.mp hblanks
      exact ⟨c, more, (after?_eq_some_iff.mp hafter).symm, hc⟩
    · cases h
  · rintro ⟨c, rest, rfl, hc⟩
    have hrest : (after? ['i', 'm', 'p', 'o', 'r', 't'] ("import".toList ++ c :: rest)).bind
        blanks? = some (skipBlanks rest) :=
      Option.bind_eq_some_iff.mpr ⟨c :: rest, after?_eq_some_iff.mpr rfl,
        blanks?_eq_some_iff.mpr ⟨c, rest, rfl, hc, rfl⟩⟩
    have hfeed : '\n' ∉ skipBlanks rest := fun hmem =>
      hline (List.mem_append_right _ (List.mem_cons_of_mem c
        ((List.dropWhile_suffix Text.isBlank).subset hmem)))
    rw [hrest]
    simpa using hfeed

end CodeSearch.Extract
