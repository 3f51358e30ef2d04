import CodeSearch.Extract.OutlineExtractor
import CodeSearch.Proofs.Text.Rows
import CodeSearch.Text.Utf8
import Mathlib.Data.List.Infix

/-!
# Texts of the parts of an outline

An outline belongs to a source if the bounds of its parts are places of the source. Then the text
of a part is the stretch between its bounds, and it starts on the row that the outline says.

- `Outline.Within`: a part at or below another one; `Site.mem_collect`: what a traversal finds.
- `Outline.Fits`: the bounds are places between two characters, and the rows count the line feeds
  before them.
- `Extract.standsAt_partText`: the text of a part.
-/

namespace CodeSearch

/-! ## Parts of an outline -/

namespace Outline

/-- The parts at and below a part. -/
inductive Within (whole : Outline) : Outline → Prop
  | self : Within whole whole
  | child {part child : Outline} (h : Within whole part) (hchild : child ∈ part.children) :
    Within whole child

theorem Within.trans {whole part inner : Outline} (h : Within whole part)
    (h' : Within part inner) : Within whole inner := by
  induction h' with
  | self => exact h
  | child _ hchild ih => exact ih.child hchild

theorem mem_children_of_child? {outline child : Outline} {field : String}
    (h : outline.child? field = some child) : child ∈ outline.children :=
  List.mem_of_find?_eq_some h

end Outline

namespace Site

/-- What is below one of the children is below the site around them. -/
theorem exists_within_of_children {first : Site} {pending : List Site} {part : Outline}
    (h : ∃ start ∈ first.children ++ pending, start.node.Within part) :
    ∃ start ∈ first :: pending, start.node.Within part := by
  obtain ⟨start, hstart, hpart⟩ := h
  rcases List.mem_append.mp hstart with hstart | hstart
  · obtain ⟨child, hchild, rfl⟩ := List.mem_map.mp hstart
    exact ⟨first, List.mem_cons_self, (Outline.Within.self.child hchild).trans hpart⟩
  · exact ⟨start, List.mem_cons_of_mem _ hstart, hpart⟩

/-- A traversal finds parts at or below the sites where it starts. -/
theorem exists_within_of_mem_collect {keep : Site → Bool} {pending : List Site} {site : Site}
    (h : site ∈ collect keep pending) : ∃ start ∈ pending, start.node.Within site.node := by
  fun_induction collect keep pending with
  | case1 => exact absurd h List.not_mem_nil
  | case2 first pending later hkeep ih =>
    rcases List.mem_cons.mp h with rfl | h
    · exact ⟨site, List.mem_cons_self, .self⟩
    · exact exists_within_of_children (ih h)
  | case3 first pending later hkeep ih => exact exists_within_of_children (ih h)

/-- What a traversal of an outline finds are parts of it. -/
theorem within_of_mem_collect {keep : Site → Bool} {outline : Outline} {site : Site}
    (h : site ∈ collect keep [root outline]) : outline.Within site.node := by
  obtain ⟨start, hstart, hwithin⟩ := exists_within_of_mem_collect h
  rw [List.mem_singleton] at hstart
  subst hstart
  exact hwithin

end Site

/-! ## Places of a source -/

open Text (StandsAt)
open Text.Utf8 (size)

/-- So many bytes and so many line feeds into the source there is a place between two characters,
or one of its ends. -/
def IsPlace (source : List Char) (offset row : Nat) : Prop :=
  ∃ before after, source = before ++ after ∧ size before = offset ∧ before.count '\n' = row

/-- Both ends of the span are places of the source, in this order. -/
structure Span.Fits (source : List Char) (span : Span) : Prop where
  ordered : span.start ≤ span.stop
  first : IsPlace source span.start span.firstRow
  last : IsPlace source span.stop span.lastRow

/-- The spans of all parts of the outline fit the source. -/
def Outline.Fits (source : List Char) (outline : Outline) : Prop :=
  ∀ part, outline.Within part → part.span.Fits source

/-- An outline fits if its own span does and the outlines within it do. -/
theorem Outline.fits_iff {source : List Char} {outline : Outline} :
    outline.Fits source ↔
      outline.span.Fits source ∧ ∀ child ∈ outline.children, child.Fits source := by
  constructor
  · intro h
    refine ⟨h outline .self, fun child hchild part hpart => ?_⟩
    exact h part ((Within.self.child hchild).trans hpart)
  · rintro ⟨hspan, hchildren⟩ part hpart
    -- A part is the outline itself, or it is within one of its children.
    have hcases : part = outline ∨ ∃ child ∈ outline.children, child.Within part := by
      induction hpart with
      | self => exact Or.inl rfl
      | @child part inner _ hinner ih =>
        rcases ih with rfl | ⟨child, hchild, hwithin⟩
        · exact Or.inr ⟨inner, hinner, .self⟩
        · exact Or.inr ⟨child, hchild, hwithin.child hinner⟩
    rcases hcases with rfl | ⟨child, hchild, hwithin⟩
    · exact hspan
    · exact hchildren child hchild part hwithin

/-- Of two beginnings of a source the one with fewer bytes is a beginning of the other one. -/
theorem prefix_of_size_le {source before upto : List Char} (hbefore : before <+: source)
    (hupto : upto <+: source) (h : size before ≤ size upto) : before <+: upto := by
  rcases List.prefix_or_prefix_of_prefix hbefore hupto with hprefix | ⟨extra, rfl⟩
  · exact hprefix
  · rw [Text.Utf8.size_append] at h
    have hlength := Text.Utf8.length_le_size extra
    have hextra : extra = [] := List.length_eq_zero_iff.mp (by omega)
    rw [hextra, List.append_nil]

/-- A span that fits is a stretch of the source. -/
theorem Span.Fits.exists_append {source : List Char} {span : Span} (h : span.Fits source) :
    ∃ before code after, source = before ++ code ++ after ∧
      span.start = size before ∧ span.stop = size before + size code ∧
      span.firstRow = before.count '\n' ∧
      span.lastRow = before.count '\n' + code.count '\n' := by
  obtain ⟨before, rest, hbefore, hstart, hfirst⟩ := h.first
  obtain ⟨upto, after, hupto, hstop, hlast⟩ := h.last
  have hprefix : before <+: upto := by
    refine prefix_of_size_le ⟨rest, hbefore.symm⟩ ⟨after, hupto.symm⟩ ?_
    rw [hstart, hstop]
    exact h.ordered
  obtain ⟨code, rfl⟩ := hprefix
  refine ⟨before, code, after, hupto, hstart.symm, ?_, hfirst.symm, ?_⟩
  · rw [← hstop, Text.Utf8.size_append]
  · rw [← hlast, List.count_append]

/-! ## The text between two places -/

namespace Extract

theorem dropBytes?_size (before rest : List Char) :
    dropBytes? (size before) (before ++ rest) = some rest := by
  induction before with
  | nil => exact dropBytes?.eq_1 rest
  | cons c before ih =>
    obtain ⟨bytes, hbytes⟩ : ∃ bytes, c.utf8Size = bytes + 1 :=
      Nat.exists_eq_add_one.mpr c.utf8Size_pos
    rw [Text.Utf8.size_cons, hbytes, Nat.add_right_comm, List.cons_append, dropBytes?,
      if_pos (by omega)]
    have hrest : bytes + size before + 1 - c.utf8Size = size before := by omega
    rw [hrest, ih]

theorem takeBytes?_size (read code after : List Char) :
    takeBytes? read (size code) (code ++ after) = some (read.reverse ++ code) := by
  induction code generalizing read with
  | nil => rw [Text.Utf8.size_nil, takeBytes?, List.append_nil]
  | cons c code ih =>
    obtain ⟨bytes, hbytes⟩ : ∃ bytes, c.utf8Size = bytes + 1 :=
      Nat.exists_eq_add_one.mpr c.utf8Size_pos
    rw [Text.Utf8.size_cons, hbytes, Nat.add_right_comm, List.cons_append, takeBytes?,
      if_pos (by omega)]
    have hrest : bytes + size code + 1 - c.utf8Size = size code := by omega
    rw [hrest, ih, List.reverse_cons, List.append_assoc, List.singleton_append]

/-- The text of a part whose span fits is the stretch between its bounds. -/
theorem partText_eq {before code after : List Char} {span : Span}
    (hstart : span.start = size before) (hstop : span.stop = size before + size code) :
    partText (before ++ code ++ after) span = String.ofList code := by
  have hbytes : span.stop - span.start = size code := by omega
  rw [partText, if_pos (by omega), hstart, List.append_assoc, dropBytes?_size, ← hstart, hbytes,
    Option.bind_some, takeBytes?_size]
  rfl

/-- The text of a part starts on the row that the span says, and holds the line feeds between its
two rows. -/
theorem standsAt_partText {source : List Char} {span : Span} (h : span.Fits source) :
    StandsAt source span.firstRow (partText source span).toList ∧
      span.lastRow = span.firstRow + (partText source span).toList.count '\n' := by
  obtain ⟨before, code, after, rfl, hstart, hstop, hfirst, hlast⟩ := h.exists_append
  rw [partText_eq hstart hstop, String.toList_ofList, hfirst, hlast]
  exact ⟨⟨before, after, rfl, rfl⟩, rfl⟩

end Extract

end CodeSearch
