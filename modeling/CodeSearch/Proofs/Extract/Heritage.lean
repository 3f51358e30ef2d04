import CodeSearch.Proofs.Extract.OutlinePasses

/-!
# Classes that are components

A class is taken for a component if its name starts with a capital letter and the first heritage
clause in its outline names a component class. That clause need not be the one of the class: a class
without a clause answers for the classes in its body, and a clause in a decorator comes before the
clause of the class.

- `heritages`: the heritage clauses at and below a part.
- `NamesComponent`: a clause names a component class.
- `componentsOf_classes`: which classes are components, and for which of them their own heritage
  clauses decide it.
- `componentsOf_inner`: a class that is a component because of a class in its body.
-/

namespace CodeSearch.Extract

variable {source : List Char} {file : FileInfo}

/-! ## Heritage clauses -/

/-- The part is a heritage clause. -/
def isHeritage (part : Outline) : Bool := part.kind == "class_heritage"

/-- The heritage clauses at and below a part, in document order. -/
def heritages (outline : Outline) : List Outline :=
  ((Site.preorder none outline).map Site.node).filter isHeritage

/-- The text of a heritage clause contains the word that the names of component classes have in
common. -/
def NamesComponent (source : List Char) (heritage : Outline) : Prop :=
  "Component".toList <:+: (partText source heritage.span).toList

theorem mentions_iff {word text : List Char} : mentions word text = true ↔ word <:+: text := by
  induction text with
  | nil => rw [mentions, List.isEmpty_iff, List.infix_nil]
  | cons c text ih =>
    rw [mentions, Bool.or_eq_true, List.isPrefixOf_iff_prefix, ih, List.infix_cons_iff]

/-- The first heritage clause at or below a part names a component class. -/
def FirstNamesComponent (source : List Char) (outline : Outline) : Prop :=
  ∃ heritage, (heritages outline).head? = some heritage ∧ NamesComponent source heritage

/-- A heritage clause among the children of a part names a component class. -/
def OwnNamesComponent (source : List Char) (outline : Outline) : Prop :=
  ∃ heritage ∈ outline.children, isHeritage heritage = true ∧ NamesComponent source heritage

theorem extendsComponent_iff {outline : Outline} :
    extendsComponent source outline = true ↔ FirstNamesComponent source outline := by
  have hcollect : (Site.collect (fun site => site.node.kind == "class_heritage")
      [Site.root outline]).map Site.node = heritages outline := by
    rw [Site.collect_root, heritages, List.filter_map]
    rfl
  rw [extendsComponent, FirstNamesComponent, ← hcollect]
  split
  · next heritage rest heq =>
    rw [heq, mentions_iff, List.map_cons, List.head?_cons]
    exact ⟨fun h => ⟨_, rfl, h⟩, fun ⟨_, hfirst, h⟩ => Option.some.inj hfirst ▸ h⟩
  · next heq =>
    rw [heq]
    exact ⟨fun h => absurd h Bool.false_ne_true, fun ⟨_, hfirst, _⟩ => by cases hfirst⟩

/-- Where the first heritage clause is the only one among the children, or there is none at all, the
first clause and the children say the same. -/
theorem firstNamesComponent_iff_of_own {outline : Outline}
    (h : outline.children.filter isHeritage = (heritages outline).take 1) :
    FirstNamesComponent source outline ↔ OwnNamesComponent source outline := by
  have hown : ∀ heritage, heritage ∈ outline.children ∧ isHeritage heritage = true ↔
      (heritages outline).head? = some heritage := by
    intro heritage
    rw [← List.mem_filter, h]
    cases heritages outline with
    | nil => simp
    | cons first rest => simp [eq_comm]
  simp only [FirstNamesComponent, OwnNamesComponent, ← and_assoc, hown]

/-! ## Classes -/

/-- The class has a name that starts with a capital letter. -/
def HasCapital (source : List Char) (outline : Outline) : Prop :=
  ∃ name, fieldText? source outline "name" = some name ∧ isCapitalised name = true

/-- What a class gives is decided by its name and by what it extends. -/
theorem componentOf?_class {declaration : Outline} (h : declaration.kind = "class_declaration") :
    componentOf? source declaration =
      (fieldText? source declaration "name").bind fun name =>
        if isCapitalised name = true ∧ extendsComponent source declaration = true then
          some (name, declaration)
        else none := by
  have hvariable : declaration.kind ≠ "variable_declarator" := by simp [h]
  rw [componentOf?]
  cases fieldText? source declaration "name" with
  | none => rfl
  | some name =>
    simp only [Option.bind_some, if_neg hvariable, if_pos h]
    cases isCapitalised name <;> simp

theorem componentChunk?_class {site : Site} {component : Chunk}
    (h : site.node.kind = "class_declaration") :
    componentChunk? source file site = some component ↔
      ∃ name, fieldText? source site.node "name" = some name ∧ isCapitalised name = true ∧
        extendsComponent source site.node = true ∧
        component = partChunk .component (some name) source file site.node := by
  have hdeclaration : isDeclaration site = true := by simp [isDeclaration, h]
  rw [componentChunk?, if_pos hdeclaration, componentOf?_class h]
  simp only [Option.map_eq_some_iff, Option.bind_eq_some_iff, Option.ite_none_right_eq_some]
  constructor
  · rintro ⟨found, ⟨name, hname, ⟨hcapital, hextends⟩, hfound⟩, rfl⟩
    obtain rfl := Option.some.inj hfound
    exact ⟨name, hname, hcapital, hextends, rfl⟩
  · rintro ⟨name, hname, hcapital, hextends, rfl⟩
    exact ⟨_, ⟨name, hname, ⟨hcapital, hextends⟩, rfl⟩, rfl⟩

/-- A class gives a chunk if it has a capital letter and the first heritage clause at or below it
names a component class. -/
theorem isSome_componentChunk?_class {site : Site} (h : site.node.kind = "class_declaration") :
    (componentChunk? source file site).isSome ↔
      HasCapital source site.node ∧ FirstNamesComponent source site.node := by
  rw [Option.isSome_iff_exists, ← extendsComponent_iff]
  simp only [componentChunk?_class h]
  constructor
  · rintro ⟨component, name, hname, hcapital, hextends, -⟩
    exact ⟨⟨name, hname, hcapital⟩, hextends⟩
  · rintro ⟨⟨name, hname, hcapital⟩, hextends⟩
    exact ⟨_, name, hname, hcapital, hextends, rfl⟩

/-- A class is a component if and only if it has a capital letter and the first heritage clause at
or below it names a component class. This is what its own heritage clauses say if and only if they
agree with that first clause, or there is no capital letter; they do where the first clause is the
only one among the children of the class, and where there is no clause at all. -/
theorem componentsOf_classes (source : List Char) (file : FileInfo) (outline : Outline) :
    componentsOf source file outline =
      (Site.preorder none outline).filterMap (componentChunk? source file) ∧
    ∀ site ∈ Site.preorder none outline, site.node.kind = "class_declaration" →
      (∀ component, componentChunk? source file site = some component →
        component = partChunk .component (fieldText? source site.node "name") source file
          site.node) ∧
      ((componentChunk? source file site).isSome ↔
        HasCapital source site.node ∧ FirstNamesComponent source site.node) ∧
      (((componentChunk? source file site).isSome ↔
          HasCapital source site.node ∧ OwnNamesComponent source site.node) ↔
        (HasCapital source site.node →
          (FirstNamesComponent source site.node ↔ OwnNamesComponent source site.node))) ∧
      (site.node.children.filter isHeritage = (heritages site.node).take 1 →
        (FirstNamesComponent source site.node ↔ OwnNamesComponent source site.node)) := by
  refine ⟨componentsOf_eq source file outline, fun site _ hkind => ?_⟩
  refine ⟨?_, isSome_componentChunk?_class hkind, ?_, firstNamesComponent_iff_of_own⟩
  · intro component hcomponent
    obtain ⟨name, hname, -, -, rfl⟩ := (componentChunk?_class hkind).mp hcomponent
    rw [hname]
  · rw [isSome_componentChunk?_class hkind, and_congr_right_iff]

/-- A class that extends a component class, with a class in its body that extends nothing. -/
theorem componentsOf_classes_of_own :
    let source := "class A extends Component \x7b m() \x7b class B \x7b\x7d \x7d \x7d".toList
    let clause : Outline := .node "class_heritage" none ⟨8, 25, 0, 0⟩ []
    let inner : Outline := .node "class_declaration" none ⟨34, 44, 0, 0⟩
      [.node "identifier" (some "name") ⟨40, 41, 0, 0⟩ []]
    let outer : Outline := .node "class_declaration" none ⟨0, 48, 0, 0⟩
      [.node "identifier" (some "name") ⟨6, 7, 0, 0⟩ [], clause,
       .node "class_body" (some "body") ⟨26, 48, 0, 0⟩ [inner]]
    let outline : Outline := .node "program" none ⟨0, 48, 0, 0⟩ [outer]
    let site : Site := ⟨some outline, outer⟩
    site ∈ Site.preorder none outline ∧
      outer.children.filter isHeritage = (heritages outer).take 1 ∧
      OwnNamesComponent source outer ∧
      (componentChunk? source (FileInfo.of "a.js" "") site).isSome := by
  intro source clause inner outer outline site
  have hsite : site ∈ Site.preorder none outline :=
    Site.child_mem_preorder List.mem_cons_self (Site.self_mem_preorder none outline)
  obtain ⟨-, hclasses⟩ := componentsOf_classes source (FileInfo.of "a.js" "") outline
  obtain ⟨-, hsome, -, hagree⟩ := hclasses site hsite rfl
  have hown : outer.children.filter isHeritage = (heritages outer).take 1 := by rfl
  have hnames : OwnNamesComponent source outer := by
    refine ⟨clause, by simp [outer, Outline.children], rfl, ?_⟩
    exact mentions_iff.mp (by decide +kernel)
  have hcapital : HasCapital source outer := ⟨"A", by decide +kernel, by decide⟩
  exact ⟨hsite, hown, hnames, hsome.mpr ⟨hcapital, (hagree hown).mpr hnames⟩⟩

/-- A class without a heritage clause is a component because a class in its body extends one. -/
theorem componentsOf_inner :
    let content := "class A \x7b m() \x7b class B extends Component \x7b\x7d \x7d \x7d\n"
    let inner : Outline := .node "class_declaration" none ⟨16, 44, 0, 0⟩
      [.node "identifier" (some "name") ⟨22, 23, 0, 0⟩ [],
       .node "class_heritage" none ⟨24, 41, 0, 0⟩ [.node "identifier" none ⟨32, 41, 0, 0⟩ []],
       .node "class_body" (some "body") ⟨42, 44, 0, 0⟩ []]
    let method : Outline := .node "method_definition" (some "member") ⟨10, 46, 0, 0⟩
      [.node "property_identifier" (some "name") ⟨10, 11, 0, 0⟩ [],
       .node "formal_parameters" (some "parameters") ⟨11, 13, 0, 0⟩ [],
       .node "statement_block" (some "body") ⟨14, 46, 0, 0⟩ [inner]]
    let outer : Outline := .node "class_declaration" none ⟨0, 48, 0, 0⟩
      [.node "identifier" (some "name") ⟨6, 7, 0, 0⟩ [],
       .node "class_body" (some "body") ⟨8, 48, 0, 0⟩ [method]]
    let outline : Outline := .node "program" none ⟨0, 49, 0, 1⟩ [outer]
    (outlineChunks "a.js" content outline).map (fun chunk => (chunk.kind, chunk.name)) =
        [("function", "m"), ("component", "A"), ("component", "B")] ∧
      (componentChunk? content.toList (FileInfo.of "a.js" content) ⟨some outline, outer⟩).isSome ∧
      ¬ OwnNamesComponent content.toList outer := by
  intro content inner method outer outline
  refine ⟨by decide +kernel, by decide +kernel, ?_⟩
  rintro ⟨heritage, hchild, hkind, -⟩
  have hnone : outer.children.filter isHeritage = [] := by rfl
  exact absurd hkind (List.filter_eq_nil_iff.mp hnone heritage hchild)

end CodeSearch.Extract
