import CodeSearch.Proofs.Indexing.Parts
import Mathlib.Data.List.Induction

/-!
# What indexing attempts

Indexing is run with a store and a provider that log their calls and are otherwise the given ones.
The logs tell what was asked of both, whatever they answered.

- `ChunkStore.logged`, `Provider.logged`, `Indexer.logged`: the logs.
- `Indexer.Logs`: the logs of a run over some parts, next to the run without logs;
  `Indexer.Logs.step` and `Indexer.logs_foldl` carry it through the run.
- `Indexer.indexChunks_attempts`: every window of every chunk is attempted once, in order.
-/

namespace CodeSearch

/-! ## Logs -/

/-- A record that was given to a store, and whether the store took it. -/
structure Attempt where
  record : Record
  isStored : Bool
  deriving Repr

/-- A text that was given to a provider, and the answer. -/
structure Question where
  text : String
  answer : Except EmbedError Vector

/-- The store, with a log of the records given to it, oldest first. -/
def ChunkStore.logged {ε σ : Type} (store : ChunkStore ε σ) :
    ChunkStore ε (σ × List Attempt) where
  append record content :=
    ((store.append record content.1).1, (store.append record content.1).2,
      content.2 ++ [⟨record, (store.append record content.1).1.toBool⟩])
  nearest query limit content := store.nearest query limit content.1
  keyword keyword limit content := store.keyword keyword limit content.1
  statistics content := store.statistics content.1

/-- The provider, with a log of the texts given to it, oldest first. -/
def Provider.logged {τ : Type} (provider : Provider τ) : Provider (τ × List Question) where
  dimensions := provider.dimensions
  embed text state :=
    ((provider.embed text state.1).1, (provider.embed text state.1).2,
      state.2 ++ [⟨text, (provider.embed text state.1).1⟩])

theorem Provider.embedOrZero_eq {τ : Type} (provider : Provider τ) (text : String) (state : τ) :
    provider.embedOrZero text state =
      (vectorOr provider.dimensions (provider.embed text state).1,
        (provider.embed text state).2) := by
  rw [embedOrZero]
  cases provider.embed text state with
  | mk answer after => cases answer <;> rfl

namespace Indexer

variable {ε σ τ : Type}

/-- The same indexing with both logs. -/
def logged (indexer : Indexer ε σ τ) : Indexer ε (σ × List Attempt) (τ × List Question) where
  store := indexer.store.logged
  provider := indexer.provider.logged
  splitter := indexer.splitter
  embedText := indexer.embedText

/-- The record of a part, once the provider has answered. -/
def answered (indexer : Indexer ε σ τ) (part : Part) (question : Question) : Record :=
  part.record indexer.embedText (vectorOr indexer.provider.dimensions question.answer)

/-- What the provider is asked for a part, and its answer. -/
def question (indexer : Indexer ε σ τ) (part : Part) (state : τ) : Question where
  text := part.text indexer.embedText
  answer := (indexer.provider.embed (part.text indexer.embedText) state).1

/-- One part is one question and one attempt. -/
theorem indexPart_eq (indexer : Indexer ε σ τ) (progress : Progress σ τ) (part : Part) :
    indexer.indexPart progress part =
      let outcome := indexer.store.append
        (indexer.answered part (indexer.question part progress.state)) progress.content
      { stored := progress.stored + outcome.1.toBool.toNat
        content := outcome.2
        state := (indexer.provider.embed (part.text indexer.embedText) progress.state).2 } := by
  rw [indexPart, Provider.embedOrZero_eq]
  dsimp only [answered, question]
  generalize indexer.store.append _ progress.content = outcome
  obtain ⟨outcome, after⟩ := outcome
  cases outcome <;> rfl

/-- A run over `parts` has got as far as `plain` without logs and as far as `logged` with them. The
logs do not change the run, and they hold one question and one attempt for each part. -/
structure Logs (indexer : Indexer ε σ τ) (parts : List Part) (plain : Progress σ τ)
    (logged : Progress (σ × List Attempt) (τ × List Question)) : Prop where
  content : logged.content.1 = plain.content
  state : logged.state.1 = plain.state
  same : logged.stored = plain.stored
  stored : plain.stored = logged.content.2.countP Attempt.isStored
  questions : logged.state.2.map Question.text = parts.map (Part.text indexer.embedText)
  attempts : logged.content.2.map Attempt.record =
    List.zipWith indexer.answered parts logged.state.2

/-- One more part adds one question and one attempt, whatever the provider and the store answer. -/
theorem Logs.step {indexer : Indexer ε σ τ} {parts : List Part} {plain : Progress σ τ}
    {logged : Progress (σ × List Attempt) (τ × List Question)}
    (h : Logs indexer parts plain logged) (part : Part) :
    Logs indexer (parts ++ [part]) (indexer.indexPart plain part)
      (indexer.logged.indexPart logged part) := by
  have hlength : parts.length = logged.state.2.length := by
    have hmap := congrArg List.length h.questions
    rw [List.length_map, List.length_map] at hmap
    exact hmap.symm
  -- The provider is asked the same in the same state, so both runs attempt the same record.
  have hquestion : indexer.logged.question part logged.state =
      indexer.question part plain.state := by
    rw [question, question, ← h.state]
    rfl
  have hrecord : indexer.logged.answered part (indexer.logged.question part logged.state) =
      indexer.answered part (indexer.question part plain.state) := by
    rw [hquestion]
    rfl
  rw [indexPart_eq, indexPart_eq, hrecord]
  generalize hasked : indexer.answered part (indexer.question part plain.state) = record
  refine ⟨?_, ?_, ?_, ?_, ?_, ?_⟩
  · show (indexer.store.append record logged.content.1).2 = _
    rw [h.content]
  · show (indexer.provider.embed _ logged.state.1).2 = _
    rw [h.state]
    rfl
  · show logged.stored + (indexer.store.append record logged.content.1).1.toBool.toNat = _
    rw [h.content, h.same]
  · show plain.stored + (indexer.store.append record plain.content).1.toBool.toNat =
      (logged.content.2 ++ [(⟨record,
        (indexer.store.append record logged.content.1).1.toBool⟩ : Attempt)]).countP
        Attempt.isStored
    rw [List.countP_append, h.content, ← h.stored, List.countP_singleton]
    cases (indexer.store.append record plain.content).1.toBool <;> rfl
  · show (logged.state.2 ++ [indexer.logged.question part logged.state]).map Question.text = _
    rw [hquestion, List.map_append, List.map_append, h.questions]
    rfl
  · show (logged.content.2 ++ [(⟨record, _⟩ : Attempt)]).map Attempt.record =
      List.zipWith indexer.answered (parts ++ [part])
        (logged.state.2 ++ [indexer.logged.question part logged.state])
    rw [List.map_append, h.attempts, List.zipWith_append hlength, hquestion, ← hasked]
    rfl

/-- The logs of a run over all parts. -/
theorem logs_foldl (indexer : Indexer ε σ τ) (parts : List Part) (content : σ) (state : τ) :
    Logs indexer parts (parts.foldl indexer.indexPart { content, state })
      (parts.foldl indexer.logged.indexPart
        { content := (content, []), state := (state, []) }) := by
  -- A log grows at its end, so the induction takes the last part away.
  induction parts using List.reverseRecOn with
  | nil => exact ⟨rfl, rfl, rfl, rfl, rfl, rfl⟩
  | append_singleton parts part ih =>
    rw [List.foldl_append, List.foldl_append]
    exact ih.step part

/-- For every store and every provider, whatever they answer, indexing asks the provider once and
attempts one record for each window of each chunk: chunk by chunk, and window by window. It counts
the attempts that succeed. -/
theorem indexChunks_attempts (indexer : Indexer ε σ τ) (chunks : List Chunk) (content : σ)
    (state : τ) :
    let plain := indexer.indexChunks chunks content state
    let logged := indexer.logged.indexChunks chunks (content, []) (state, [])
    let attempts := logged.content.2
    let questions := logged.state.2
    logged.content.1 = plain.content ∧ logged.state.1 = plain.state ∧
    logged.stored = plain.stored ∧
    plain.stored = attempts.countP Attempt.isStored ∧
    attempts.length = windowCount indexer.splitter chunks ∧
    questions.length = windowCount indexer.splitter chunks ∧
    ∀ before chunk after, chunks = before ++ chunk :: after →
      ∀ index (h : index < (indexer.splitter.split chunk.code).length),
        ∃ attempt question,
          attempts[windowCount indexer.splitter before + index]? = some attempt ∧
          questions[windowCount indexer.splitter before + index]? = some question ∧
          question.text =
            indexer.embedText.render chunk (indexer.splitter.split chunk.code)[index] ∧
          IsRecordOf indexer.embedText indexer.provider.dimensions chunk
            (indexer.splitter.split chunk.code)[index] index
            (indexer.splitter.split chunk.code).length question.answer attempt.record := by
  intro plain logged attempts questions
  have hlogs : Logs indexer (indexer.parts chunks) plain logged :=
    indexer.logs_foldl (indexer.parts chunks) content state
  have hquestions : questions.length = windowCount indexer.splitter chunks := by
    have hmap := congrArg List.length hlogs.questions
    rwa [List.length_map, List.length_map, length_parts] at hmap
  have hattempts : attempts.length = windowCount indexer.splitter chunks := by
    have hmap := congrArg List.length hlogs.attempts
    rwa [List.length_map, List.length_zipWith, length_parts,
      show logged.state.2.length = _ from hquestions, Nat.min_self] at hmap
  refine ⟨hlogs.content, hlogs.state, hlogs.same, hlogs.stored, hattempts, hquestions, ?_⟩
  intro before chunk after hchunks index h
  -- The place of the window among all parts is its place in both logs.
  have hpart := indexer.parts_getElem? before chunk after h
  rw [← hchunks] at hpart
  have htext := congrArg (fun texts => texts[windowCount indexer.splitter before + index]?)
    hlogs.questions
  have hrecord := congrArg (fun records => records[windowCount indexer.splitter before + index]?)
    hlogs.attempts
  obtain ⟨hplace, -⟩ := List.getElem?_eq_some_iff.mp hpart
  rw [length_parts] at hplace
  obtain ⟨attempt, hattempt⟩ : ∃ attempt,
      attempts[windowCount indexer.splitter before + index]? = some attempt :=
    ⟨_, List.getElem?_eq_getElem (hattempts ▸ hplace)⟩
  obtain ⟨question, hquestion⟩ : ∃ question,
      questions[windowCount indexer.splitter before + index]? = some question :=
    ⟨_, List.getElem?_eq_getElem (hquestions ▸ hplace)⟩
  rw [List.getElem?_map, List.getElem?_map, hpart, show logged.state.2 = questions from rfl,
    hquestion, Option.map_some, Option.map_some, Option.some_inj] at htext
  rw [List.getElem?_map, List.getElem?_zipWith, hpart, show logged.state.2 = questions from rfl,
    show logged.content.2 = attempts from rfl, hattempt, hquestion, Option.map_some] at hrecord
  refine ⟨attempt, question, hattempt, hquestion, htext, ?_⟩
  rw [Option.some.inj hrecord]
  exact Part.isRecordOf_record indexer.embedText indexer.provider.dimensions
    { chunk, code := _, index, total := _ } question.answer

/-- A chunk of two windows goes to a store that takes nothing, with a provider that never answers:
the second window is attempted all the same. -/
theorem indexChunks_attempts_of_refusal :
    let indexer : Indexer Unit Unit Unit :=
      { store :=
          { append := fun _ _ => (.error (), ())
            nearest := fun _ _ _ => .error ()
            keyword := fun _ _ _ => .error ()
            statistics := fun _ => .error () }
        provider := Provider.ofFunction 2 fun _ => .error .missingApiKey
        splitter := Splitter.ofBounds 2 0
        embedText := .rawCode }
    let chunk : Chunk := { (default : Chunk) with code := "abcd" }
    let logged := indexer.logged.indexChunks [chunk] ((), []) ((), [])
    1 < (indexer.splitter.split chunk.code).length ∧
      ∃ attempt question, logged.content.2[1]? = some attempt ∧
        logged.state.2[1]? = some question ∧ question.text = "cd" ∧
        IsRecordOf .rawCode 2 chunk "cd" 1 2 question.answer attempt.record := by
  intro indexer chunk logged
  have hwindows : indexer.splitter.split chunk.code = ["ab", "cd"] := by decide +kernel
  have hindex : 1 < (indexer.splitter.split chunk.code).length := by
    rw [hwindows]
    decide
  obtain ⟨-, -, -, -, -, -, hparts⟩ := indexChunks_attempts indexer [chunk] () ()
  obtain ⟨attempt, question, hattempt, hquestion, htext, hrecord⟩ :=
    hparts [] chunk [] rfl 1 hindex
  have hwindow : (indexer.splitter.split chunk.code)[1] = "cd" :=
    List.getElem_of_eq hwindows hindex
  have htotal : (indexer.splitter.split chunk.code).length = 2 := by
    rw [hwindows]
    rfl
  rw [hwindow] at htext hrecord
  rw [htotal] at hrecord
  exact ⟨hindex, attempt, question, hattempt, hquestion, htext, hrecord⟩

end Indexer

end CodeSearch
