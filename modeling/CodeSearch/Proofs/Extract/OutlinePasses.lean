import CodeSearch.Proofs.Extract.Preorder

/-!
# The passes over an outline

Functions, components and imports are looked for in one pass each. All passes walk the outline in
document order, so a component that is a function is found by two of them, which have to agree on
what it is.

- `functionChunk`, `componentChunk?`, `importChunk`: what a site gives in each pass.
- `outlineChunks_eq`: the chunks of an outline, site by site.
- `DeclaresFunction`: the function of a declaration.
- `outlineChunks_passes`: the function of a component is a chunk of its own, with the same text on
  the same rows, and with the same name unless it has one itself.
-/

namespace CodeSearch.Extract

/-! ## Site by site -/

/-- The chunk that a function gives. -/
def functionChunk (source : List Char) (file : FileInfo) (site : Site) : Chunk :=
  partChunk .function (functionName? source site) source file site.node

/-- The chunk of the component that a site gives, if it is a declaration that defines one. -/
def componentChunk? (source : List Char) (file : FileInfo) (site : Site) : Option Chunk :=
  if isDeclaration site then
    (componentOf? source site.node).map fun (name, part) =>
      partChunk .component (some name) source file part
  else none

/-- The chunk that an import gives. -/
def importChunk (source : List Char) (file : FileInfo) (site : Site) : Chunk :=
  partChunk .importing none source file site.node

theorem functionsOf_eq (source : List Char) (file : FileInfo) (outline : Outline) :
    functionsOf source file outline =
      ((Site.preorder none outline).filter isFunction).map (functionChunk source file) := by
  rw [functionsOf, Site.collect_root]
  rfl

theorem componentsOf_eq (source : List Char) (file : FileInfo) (outline : Outline) :
    componentsOf source file outline =
      (Site.preorder none outline).filterMap (componentChunk? source file) := by
  rw [componentsOf, Site.collect_root, List.filterMap_filter]
  rfl

theorem importStatementsOf_eq (source : List Char) (file : FileInfo) (outline : Outline) :
    importStatementsOf source file outline =
      ((Site.preorder none outline).filter isImportStatement).map (importChunk source file) := by
  rw [importStatementsOf, Site.collect_root]
  rfl

/-- The chunks of an outline are those of its sites, in document order in each pass. -/
theorem outlineChunks_eq (path content : String) (outline : Outline) :
    outlineChunks path content outline =
      ((Site.preorder none outline).filter isFunction).map
          (functionChunk content.toList (FileInfo.of path content)) ++
        (Site.preorder none outline).filterMap
          (componentChunk? content.toList (FileInfo.of path content)) ++
        ((Site.preorder none outline).filter isImportStatement).map
          (importChunk content.toList (FileInfo.of path content)) := by
  rw [outlineChunks, functionsOf_eq, componentsOf_eq, importStatementsOf_eq]

/-! ## Components that are functions -/

/-- The function of a declaration: a declared function itself, or the function that a variable is
given as its value. -/
inductive DeclaresFunction (declaration : Outline) : Outline → Prop
  | itself (hkind : declaration.kind = "function_declaration") :
    DeclaresFunction declaration declaration
  | value {value : Outline} (hkind : declaration.kind = "variable_declarator")
    (hvalue : declaration.child? "value" = some value)
    (hfunction : value.kind = "arrow_function" ∨ value.kind = "function_expression") :
    DeclaresFunction declaration value

variable {source : List Char} {file : FileInfo}

/-- If the declaration of a function defines a component, this is the function under the name of
the declaration. -/
theorem DeclaresFunction.of_componentOf? {declaration part found : Outline} {name : String}
    (h : DeclaresFunction declaration part)
    (hcomponent : componentOf? source declaration = some (name, found)) :
    found = part ∧ fieldText? source declaration "name" = some name := by
  rw [componentOf?] at hcomponent
  split at hcomponent
  · cases hcomponent
  · next given hgiven =>
    obtain ⟨-, hcomponent⟩ := Option.ite_none_left_eq_some.mp hcomponent
    cases h with
    | itself hkind =>
      rw [if_neg (by simp [hkind]), if_neg (by simp [hkind])] at hcomponent
      cases hcomponent
      exact ⟨rfl, hgiven⟩
    | value hkind hvalue hfunction =>
      rw [if_pos hkind, hvalue] at hcomponent
      obtain ⟨-, hfound⟩ := Option.ite_none_right_eq_some.mp hcomponent
      cases hfound
      exact ⟨rfl, hgiven⟩

/-- The function of a declaration is found by the walk. It goes by its own name if it has one, and
by the name of the declaration otherwise. -/
theorem DeclaresFunction.exists_site {outline part : Outline} {site : Site} {name : String}
    (hsite : site ∈ Site.preorder none outline) (h : DeclaresFunction site.node part)
    (hname : fieldText? source site.node "name" = some name) :
    ∃ place ∈ Site.preorder none outline, place.node = part ∧ isFunction place = true ∧
      functionName? source place = some ((fieldText? source part "name").getD name) := by
  cases h with
  | itself hkind =>
    refine ⟨site, hsite, rfl, ?_, ?_⟩
    · simp [isFunction, functionKinds, hkind]
    · simp only [functionName?, hname, Option.getD_some]
  | value hkind hvalue hfunction =>
    have hchild := Outline.mem_children_of_child? hvalue
    refine ⟨_, Site.child_mem_preorder hchild hsite, rfl, ?_, ?_⟩
    · rcases hfunction with hfunction | hfunction <;>
        simp [isFunction, functionKinds, hfunction]
    · cases hown : fieldText? source part "name" with
      | some own => simp only [functionName?, hown, Option.getD_some]
      | none => simp only [functionName?, hown, if_pos hkind, hname, Option.getD_none]

/-- Every function and every import of an outline gives one chunk, in document order. A component
that is a declared function, or a function that is given to a variable, has the text, the rows and
the type of a chunk of the functions. Both go by the same name unless the function that is given to
the variable has a name itself. -/
theorem outlineChunks_passes (path content : String) (outline : Outline) :
    let source := content.toList
    let file := FileInfo.of path content
    let sites := Site.preorder none outline
    let functions := (sites.filter isFunction).map (functionChunk source file)
    let components := sites.filterMap (componentChunk? source file)
    let imports := (sites.filter isImportStatement).map (importChunk source file)
    outlineChunks path content outline = functions ++ components ++ imports ∧
    ∀ site ∈ sites, ∀ part, DeclaresFunction site.node part →
      ∀ component, componentChunk? source file site = some component →
      ∃ function ∈ functions, function.code = component.code ∧
        function.startLine = component.startLine ∧ function.endLine = component.endLine ∧
        function.nodeType = component.nodeType ∧
        (part = site.node ∨ part.child? "name" = none → function.name = component.name) ∧
        ∀ own, fieldText? source part "name" = some own →
          function.name = Chunk.nameOr (some own) := by
  intro source file sites functions components imports
  refine ⟨outlineChunks_eq path content outline, ?_⟩
  intro site hsite part hpart component hcomponent
  obtain ⟨-, hcomponent⟩ := Option.ite_none_right_eq_some.mp hcomponent
  obtain ⟨⟨name, found⟩, hfound, rfl⟩ := Option.map_eq_some_iff.mp hcomponent
  obtain ⟨rfl, hname⟩ := hpart.of_componentOf? hfound
  obtain ⟨place, hplace, rfl, hfunction, hcalled⟩ := hpart.exists_site hsite hname
  have hmem : functionChunk source file place ∈ functions :=
    List.mem_map_of_mem (List.mem_filter.mpr ⟨hplace, hfunction⟩)
  refine ⟨_, hmem, rfl, rfl, rfl, rfl, ?_, ?_⟩
  · intro hsame
    -- In both cases the name is that of the declaration.
    have hgiven : (fieldText? source place.node "name").getD name = name := by
      rcases hsame with hself | hnone
      · rw [hself, hname, Option.getD_some]
      · rw [fieldText?, hnone, Option.map_none, Option.getD_none]
    show Chunk.nameOr (functionName? source place) = Chunk.nameOr (some name)
    rw [hcalled, hgiven]
  · intro own hown
    show Chunk.nameOr (functionName? source place) = Chunk.nameOr (some own)
    rw [hcalled, hown, Option.getD_some]

/-- A function with a name of its own is given to a variable with a capital letter: it is found
under both names. -/
theorem outlineChunks_passes_of_named :
    let content := "const A = function b() \x7b\x7d;"
    let value : Outline := .node "function_expression" (some "value") ⟨10, 25, 0, 0⟩
      [.node "identifier" (some "name") ⟨19, 20, 0, 0⟩ []]
    let declarator : Outline := .node "variable_declarator" none ⟨6, 25, 0, 0⟩
      [.node "identifier" (some "name") ⟨6, 7, 0, 0⟩ [], value]
    let outline : Outline := .node "program" none ⟨0, 26, 0, 0⟩ [declarator]
    DeclaresFunction declarator value ∧ ∃ function component,
      outlineChunks "a.js" content outline = [function, component] ∧
      function.code = component.code ∧ function.nodeType = component.nodeType ∧
      function.name = "b" ∧ component.name = "A" := by
  intro content value declarator outline
  have hpart : DeclaresFunction declarator value := .value rfl rfl (Or.inr rfl)
  refine ⟨hpart, ?_⟩
  let component := Chunk.named "component" (some "A") "function b() \x7b\x7d" 0 0
    "function_expression" (FileInfo.of "a.js" content)
  have hcomponent : componentChunk? content.toList (FileInfo.of "a.js" content)
      ⟨some outline, declarator⟩ = some component := by decide +kernel
  have hsite : ⟨some outline, declarator⟩ ∈ Site.preorder none outline :=
    Site.child_mem_preorder List.mem_cons_self (Site.self_mem_preorder none outline)
  obtain ⟨-, hpasses⟩ := outlineChunks_passes "a.js" content outline
  obtain ⟨function, hfunction, hcode, -, -, htype, -, hname⟩ :=
    hpasses _ hsite value hpart component hcomponent
  have hchunks : outlineChunks "a.js" content outline =
      [{ component with kind := "function", name := "b" }, component] := by decide +kernel
  have hfunctions : ((Site.preorder none outline).filter isFunction).map
      (functionChunk content.toList (FileInfo.of "a.js" content)) =
      [{ component with kind := "function", name := "b" }] := by decide +kernel
  obtain rfl := List.mem_singleton.mp (hfunctions ▸ hfunction)
  exact ⟨_, _, hchunks, hcode, htype, hname "b" (by decide +kernel), rfl⟩

end CodeSearch.Extract
