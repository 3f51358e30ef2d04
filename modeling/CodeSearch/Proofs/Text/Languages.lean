import Mathlib.Computability.Language
import Mathlib.Data.List.TakeWhile

/-!
# Reading a text from its start

A text starts with a text of a language. For the languages of regular expressions that are read
without ever going back, this is settled part by part: where a run of characters of one class is
followed by something that begins outside the class, the run ends at the first such character.

- `starOf`, `plusOf`: any number of characters of a class, and at least one.
- `Starts`: a text starts with a text of a language.
- `BeginsOutside`: the texts of a language begin with a character that is not in a class.
- `starts_singleton_mul`, `starts_optional_mul`, `starts_star_mul`, `starts_plus_mul`: what it takes
  to start with a word, an optional part or a run of a class, and then with something else.
-/

/-- A language whose texts are lists of characters. It has its name outside of the library, where a
language is one with a grammar. -/
abbrev TextLanguage := Language Char

namespace CodeSearch.Text

/-- Any number of characters of a class. -/
def starOf (p : Char → Bool) : TextLanguage := {text | ∀ c ∈ text, p c = true}

/-- One character of a class or more. -/
def plusOf (p : Char → Bool) : TextLanguage := {text | text ≠ [] ∧ ∀ c ∈ text, p c = true}

/-- The text starts with a text of the language. -/
def Starts (language : TextLanguage) (text : List Char) : Prop :=
  ∃ read ∈ language, read <+: text

/-- Every text of the language begins with a character that is not in the class. -/
def BeginsOutside (p : Char → Bool) (language : TextLanguage) : Prop :=
  ∀ text ∈ language, ∃ c rest, text = c :: rest ∧ p c = false

variable {p q : Char → Bool} {first second : TextLanguage} {text : List Char}

theorem starts_mul : Starts (first * second) text ↔
    ∃ read ∈ first, ∃ rest, read ++ rest = text ∧ Starts second rest := by
  constructor
  · rintro ⟨whole, hwhole, more, rfl⟩
    obtain ⟨read, hread, next, hnext, rfl⟩ := Language.mem_mul.mp hwhole
    exact ⟨read, hread, next ++ more, (List.append_assoc _ _ _).symm, next, hnext,
      List.prefix_append _ _⟩
  · rintro ⟨read, hread, rest, rfl, next, hnext, hrest⟩
    exact ⟨read ++ next, Language.mem_mul.mpr ⟨read, hread, next, hnext, rfl⟩,
      (List.prefix_append_right_inj read).mpr hrest⟩

theorem starts_singleton_mul {word : List Char} :
    Starts ({word} * second) text ↔ ∃ rest, word ++ rest = text ∧ Starts second rest := by
  rw [starts_mul]
  constructor
  · rintro ⟨_, rfl, hrest⟩
    exact hrest
  · exact fun hrest => ⟨word, rfl, hrest⟩

theorem starts_optional_mul :
    Starts ((1 + first) * second) text ↔ Starts second text ∨ Starts (first * second) text := by
  rw [add_mul, one_mul]
  constructor
  · rintro ⟨read, hread | hread, hmore⟩
    · exact Or.inl ⟨read, hread, hmore⟩
    · exact Or.inr ⟨read, hread, hmore⟩
  · rintro (⟨read, hread, hmore⟩ | ⟨read, hread, hmore⟩)
    · exact ⟨read, Or.inl hread, hmore⟩
    · exact ⟨read, Or.inr hread, hmore⟩

theorem starts_singleton {c : Char} : Starts {[c]} text ↔ text.head? = some c := by
  constructor
  · rintro ⟨_, rfl, rest, rfl⟩
    rfl
  · intro hhead
    obtain ⟨rest, rfl⟩ := List.head?_eq_some_iff.mp hhead
    exact ⟨[c], rfl, rest, rfl⟩

theorem BeginsOutside.head_eq_false (h : BeginsOutside p first) (htext : Starts first text) :
    ∃ c rest, text = c :: rest ∧ p c = false := by
  obtain ⟨read, hread, more, rfl⟩ := htext
  obtain ⟨c, rest, rfl, hc⟩ := h read hread
  exact ⟨c, rest ++ more, rfl, hc⟩

theorem BeginsOutside.mul (h : BeginsOutside p first) : BeginsOutside p (first * second) := by
  intro whole hwhole
  obtain ⟨read, hread, next, -, rfl⟩ := Language.mem_mul.mp hwhole
  obtain ⟨c, rest, rfl, hc⟩ := h read hread
  exact ⟨c, rest ++ next, rfl, hc⟩

theorem beginsOutside_singleton {c : Char} {word : List Char} (h : p c = false) :
    BeginsOutside p {c :: word} := by
  rintro _ rfl
  exact ⟨c, word, rfl, h⟩

theorem BeginsOutside.star_mul (hq : ∀ c, q c = true → p c = false)
    (h : BeginsOutside p second) : BeginsOutside p (starOf q * second) := by
  intro whole hwhole
  obtain ⟨read, hread, next, hnext, rfl⟩ := Language.mem_mul.mp hwhole
  cases read with
  | nil => exact h next hnext
  | cons c read => exact ⟨c, read ++ next, rfl, hq c (hread c List.mem_cons_self)⟩

theorem BeginsOutside.optional_mul (hfirst : BeginsOutside p first)
    (hsecond : BeginsOutside p second) : BeginsOutside p ((1 + first) * second) := by
  intro whole hwhole
  obtain ⟨read, hread | hread, next, hnext, rfl⟩ := Language.mem_mul.mp hwhole
  · obtain rfl := hread
    exact hsecond next hnext
  · exact hfirst.mul _ (Language.mem_mul.mpr ⟨read, hread, next, hnext, rfl⟩)

/-- A run of a class ends where a character stands that is not in the class. -/
theorem starts_star_mul (h : BeginsOutside p second) :
    Starts (starOf p * second) text ↔ Starts second (text.dropWhile p) := by
  rw [starts_mul]
  constructor
  · rintro ⟨run, hrun, rest, rfl, hrest⟩
    obtain ⟨c, more, rfl, hc⟩ := h.head_eq_false hrest
    rwa [List.dropWhile_append_of_pos hrun, List.dropWhile_cons_of_neg (by simp [hc])]
  · intro hrest
    exact ⟨text.takeWhile p, fun c hc => List.mem_takeWhile_imp hc, text.dropWhile p,
      List.takeWhile_append_dropWhile, hrest⟩

theorem starts_plus_mul (h : BeginsOutside p second) :
    Starts (plusOf p * second) text ↔
      ∃ c rest, text = c :: rest ∧ p c = true ∧ Starts second (rest.dropWhile p) := by
  constructor
  · rw [starts_mul]
    rintro ⟨run, ⟨hne, hrun⟩, rest, rfl, hrest⟩
    cases run with
    | nil => exact absurd rfl hne
    | cons c run =>
      obtain ⟨hc, hmore⟩ := List.forall_mem_cons.mp hrun
      exact ⟨c, run ++ rest, rfl, hc, (starts_star_mul h).mp
        (starts_mul.mpr ⟨run, hmore, rest, rfl, hrest⟩)⟩
  · rintro ⟨c, rest, rfl, hc, hrest⟩
    obtain ⟨run, hrun, more, rfl, hmore⟩ := starts_mul.mp ((starts_star_mul h).mpr hrest)
    exact starts_mul.mpr ⟨c :: run, ⟨List.cons_ne_nil _ _, List.forall_mem_cons.mpr ⟨hc, hrun⟩⟩,
      more, rfl, hmore⟩

end CodeSearch.Text
