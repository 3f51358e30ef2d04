import CodeSearch.CommandLine.Run
import CodeSearch.Proofs.CommandLine.InputLines

/-!
# What a dialogue searches for

A dialogue searches once for each line with something on it, up to the first line that says `quit`.
A search that fails is reported like any other, and the dialogue goes on. Every line costs one
prompt, and so does the end, be it the line that says `quit` or the end of the input.

- `SaysQuit`: the line that ends a dialogue.
- `App.searches`, `App.stateAfter`: the searches for some lines, and the state that they leave.
- `App.turns_append`: lines without `quit`, and whatever follows them.
- `App.runInteractive_searches`: a whole dialogue, and one that goes on where another one ended.
-/

namespace CodeSearch.CommandLine

open Text (trim trimString isBlank)
open Text.Utf8 (bytes)

/-! ## What a line asks for -/

/-- The line says `quit`, in letters of either case and with nothing but blanks around it. -/
def SaysQuit (line : String) : Prop :=
  ∃ before word after, line.toList = before ++ word ++ after ∧
    (∀ c ∈ before, isBlank c = true) ∧ (∀ c ∈ after, isBlank c = true) ∧
    word.map Char.toLower = "quit".toList

variable {line : String}

theorem toLower_of_isBlank {c : Char} (h : isBlank c = true) : c.toLower = c := by
  unfold Char.toLower
  rw [dif_neg]
  rintro ⟨hlow, hhigh⟩
  have hfirst : 65 ≤ c.toNat := UInt32.le_iff_toNat_le.mp hlow
  have hlast : c.toNat ≤ 90 := UInt32.le_iff_toNat_le.mp hhigh
  simp only [isBlank, Bool.or_eq_true, Bool.and_eq_true, decide_eq_true_eq, beq_iff_eq] at h
  omega

/-- There is no blank in the word, so trimming a line leaves it. -/
theorem trim_of_quit {word : List Char} (h : word.map Char.toLower = "quit".toList) :
    trim word = word := by
  refine Text.trim_eq_self fun c hword => Bool.eq_false_iff.mpr fun hblank => ?_
  have hmem : c.toLower ∈ word.map Char.toLower := List.mem_map_of_mem hword
  rw [toLower_of_isBlank hblank, h] at hmem
  have hnone : "quit".toList.all (fun d => !isBlank d) = true := by decide
  have hc := List.all_eq_true.mp hnone c hmem
  rw [hblank] at hc
  cases hc

theorem turn_eq_quit_iff : Turn.of line = .quit ↔ SaysQuit line := by
  have hturn : Turn.of line = .quit ↔
      String.ofList ((trim line.toList).map Char.toLower) = "quit" := by
    unfold Turn.of trimString
    dsimp only
    rw [String.toList_ofList]
    split_ifs <;> simp_all
  rw [hturn, ← String.toList_inj, String.toList_ofList]
  constructor
  · intro h
    obtain ⟨before, after, heq, hbefore, hafter⟩ := Text.exists_eq_append_trim line.toList
    exact ⟨before, _, after, heq, hbefore, hafter, h⟩
  · rintro ⟨before, word, after, heq, hbefore, hafter, hword⟩
    rw [heq, Text.trim_append_right hafter, Text.trim_append_left hbefore, trim_of_quit hword,
      hword]

instance (line : String) : Decidable (SaysQuit line) := decidable_of_iff _ turn_eq_quit_iff

theorem isBlankText_iff : Text.isBlankText line.toList = true ↔ trimString line = "" := by
  rw [Text.isBlankText, List.all_eq_true, trimString, String.ofList_eq_empty_iff,
    Text.trim_eq_nil_iff]

/-- A line that does not say `quit` asks for a search, unless it is blank. -/
theorem turn_of_not_quit (h : ¬ SaysQuit line) :
    Turn.of line =
      if Text.isBlankText line.toList = true then .nothing else .query (trimString line) := by
  rw [← turn_eq_quit_iff] at h
  revert h
  unfold Turn.of
  dsimp only
  split_ifs <;> simp_all [isBlankText_iff]

theorem turn_of_trimString (line : String) : Turn.of (trimString line) = Turn.of line := by
  have htrim : trimString (trimString line) = trimString line := by
    rw [trimString, trimString, String.toList_ofList, Text.trim_trim]
  unfold Turn.of
  rw [htrim]

/-! ## Dialogues with more output in front -/

variable {τ : Type}

theorem Dialogue.after_after (dialogue : Dialogue τ) (first second : String) :
    (dialogue.after second).after first = dialogue.after (first ++ second) := by
  rw [after, after, after, String.append_assoc]

theorem Dialogue.after_empty (dialogue : Dialogue τ) : dialogue.after "" = dialogue := by
  rw [after, String.empty_append]

/-- Nothing but what is left of the lines without their blank ends matters. -/
theorem turns_trimString (answer : String → τ → String × τ) (lines : List (Option String))
    (state : τ) :
    turns answer (lines.map (Option.map trimString)) state = turns answer lines state := by
  induction lines generalizing state with
  | nil => rfl
  | cons line lines ih =>
    cases line with
    | none => rfl
    | some line =>
      rw [List.map_cons, Option.map_some, turns, turns, turn_of_trimString]
      cases Turn.of line with
      | quit => rfl
      | nothing => exact congrArg (Dialogue.after prompt) (ih state)
      | query text => exact congrArg (Dialogue.after _) (ih _)

/-! ## Searches -/

/-- What is printed for a line: a prompt, then what its search prints, and its error on one line if
it fails. -/
def shown (found : Option (Dialogue τ)) : String :=
  prompt ++ found.elim "" fun found => found.output ++ (found.failure.map Failure.line).getD ""

/-- The lines before the first one that says `quit`. -/
def linesBeforeQuit (lines : List String) : List String :=
  lines.takeWhile fun line => !decide (SaysQuit line)

namespace App

/-- The search that a line asks for: none if it is blank, and otherwise one for the text on it, with
the limit and the threshold of the configuration. -/
def searchLine (app : App τ) (line : String) (state : τ) : Option (Dialogue τ) :=
  if Text.isBlankText line.toList then none
  else some (app.search (trimString line) app.config.searchLimit.toNat
    app.config.searchThreshold state)

/-- The state after a line, which only a search changes. -/
def stateAfterLine (app : App τ) (state : τ) (line : String) : τ :=
  (app.searchLine line state).elim state Dialogue.state

/-- The state after some lines. -/
def stateAfter (app : App τ) (lines : List String) (state : τ) : τ :=
  lines.foldl app.stateAfterLine state

/-- The searches for some lines, one after the other: each starts in the state in which the one
before it ended. -/
def searches (app : App τ) : List String → τ → List (Option (Dialogue τ))
  | [], _ => []
  | line :: lines, state =>
    app.searchLine line state :: app.searches lines (app.stateAfterLine state line)

variable (app : App τ) {lines : List String}

/-- One line that does not say `quit`. -/
theorem turns_line {line : String} (h : ¬ SaysQuit line) (rest : List (Option String)) (state : τ) :
    turns app.answer (some line :: rest) state =
      (turns app.answer rest (app.stateAfterLine state line)).after
        (shown (app.searchLine line state)) := by
  have hturn := turn_of_not_quit h
  by_cases hblank : Text.isBlankText line.toList = true
  · rw [if_pos hblank] at hturn
    rw [turns_of_nothing app.answer hturn, stateAfterLine, searchLine, if_pos hblank,
      Option.elim_none, shown, Option.elim_none, String.append_empty]
  · rw [if_neg hblank] at hturn
    rw [turns_of_query app.answer hturn, stateAfterLine, searchLine, if_neg hblank,
      Option.elim_some, shown, Option.elim_some]
    rfl

/-- Some lines that do not say `quit`, and whatever follows them. -/
theorem turns_append (h : ∀ line ∈ lines, ¬ SaysQuit line) (rest : List (Option String))
    (state : τ) :
    turns app.answer (lines.map some ++ rest) state =
      (turns app.answer rest (app.stateAfter lines state)).after
        (String.join ((app.searches lines state).map shown)) := by
  induction lines generalizing state with
  | nil => exact (Dialogue.after_empty _).symm
  | cons line lines ih =>
    obtain ⟨hline, hlines⟩ := List.forall_mem_cons.mp h
    rw [List.map_cons, List.cons_append, app.turns_line hline, ih hlines, Dialogue.after_after,
      searches, List.map_cons, String.join_cons, stateAfter, stateAfter, List.foldl_cons]

/-- What follows a line that says `quit` is not read. -/
theorem turns_linesBeforeQuit (lines : List String) (state : τ) :
    turns app.answer (lines.map some) state =
      turns app.answer ((linesBeforeQuit lines).map some) state := by
  induction lines generalizing state with
  | nil => rfl
  | cons line lines ih =>
    by_cases hquit : SaysQuit line
    · have hbefore : linesBeforeQuit (line :: lines) = [] :=
        List.takeWhile_cons_of_neg (by simp [hquit])
      rw [hbefore, List.map_cons, turns_of_quit app.answer (turn_eq_quit_iff.mpr hquit),
        List.map_nil]
    · have hbefore : linesBeforeQuit (line :: lines) = line :: linesBeforeQuit lines :=
        List.takeWhile_cons_of_pos (by simp [hquit])
      rw [hbefore, List.map_cons, List.map_cons, app.turns_line hquit, app.turns_line hquit, ih]

theorem not_saysQuit_of_mem {line : String} (h : line ∈ linesBeforeQuit lines) :
    ¬ SaysQuit line := by
  have hline := List.mem_takeWhile_imp h
  rwa [Bool.not_eq_true', decide_eq_false_iff_not] at hline

/-! ## Dialogues -/

/-- The turns over the bytes of a text. -/
theorem turns_bytes (text : String) (state : τ) :
    turns app.answer (inputLines (bytes text)) state =
      { output :=
          String.join ((app.searches (linesBeforeQuit (linesOf text)) state).map shown) ++ prompt
        state := app.stateAfter (linesBeforeQuit (linesOf text)) state } := by
  have hread : turns app.answer (inputLines (bytes text)) state =
      turns app.answer ((linesOf text).map some) state := by
    rw [← turns_trimString, trimString_inputLines, ← turns_trimString _ ((linesOf text).map some),
      List.map_map]
    rfl
  rw [hread, turns_linesBeforeQuit, ← List.append_nil (List.map _ _),
    app.turns_append (fun _ => not_saysQuit_of_mem), turns_nil, Dialogue.after]

/-- A dialogue over lines that do not say `quit`, and over whatever follows them. -/
theorem dialogue_append (h : ∀ line ∈ lines, '\n' ∉ line.toList ∧ ¬ SaysQuit line) (rest : String)
    (state : τ) :
    dialogue app.answer (inputLines (bytes (unlines lines ++ rest))) state =
      (turns app.answer (inputLines (bytes rest)) (app.stateAfter lines state)).after
        (dialogueHeader ++ String.join ((app.searches lines state).map shown)) := by
  rw [dialogue, inputLines_unlines (fun line hline => (h line hline).1),
    app.turns_append (fun line hline => (h line hline).2), Dialogue.after_after]

/-- The lines of an input that come before the first one that says `quit` are answered one after
the other: with a search for the text on the line, with the limit and the threshold of the
configuration, or with nothing if the line is blank. What is printed is the header, for each of
these lines a prompt and what its search prints, and a last prompt. No search changes the files, and
none fails the dialogue. After lines that do not say `quit` a dialogue goes on as one that starts in
the state that they leave. -/
theorem runInteractive_searches (state : τ) (files : FileSystem) :
    (∀ text : String,
      let asked := linesBeforeQuit (linesOf text)
      let printed := String.join ((app.searches asked state).map shown)
      runInteractive app (bytes text) state files =
        .success (dialogueHeader ++ (printed ++ prompt)) files ∧
      (dialogue app.answer (inputLines (bytes text)) state).state = app.stateAfter asked state) ∧
    ∀ (lines : List String) (rest : String),
      (∀ line ∈ lines, '\n' ∉ line.toList ∧ ¬ SaysQuit line) →
      let state' := (dialogue app.answer (inputLines (bytes (unlines lines))) state).state
      ∃ said more,
        runInteractive app (bytes (unlines lines)) state files = .success (said ++ prompt) files ∧
        runInteractive app (bytes rest) state' files = .success (dialogueHeader ++ more) files ∧
        runInteractive app (bytes (unlines lines ++ rest)) state files =
          .success (said ++ more) files := by
  constructor
  · intro text asked printed
    rw [runInteractive, dialogue, turns_bytes]
    exact ⟨rfl, rfl⟩
  · intro lines rest h
    have hfirst := app.dialogue_append h "" state
    rw [String.append_empty, show inputLines (bytes "") = [] from rfl, turns_nil] at hfirst
    rw [hfirst]
    refine ⟨dialogueHeader ++ String.join ((app.searches lines state).map shown),
      (turns app.answer (inputLines (bytes rest)) (app.stateAfter lines state)).output, ?_, ?_, ?_⟩
    · rw [runInteractive, hfirst]
      rfl
    · rw [runInteractive, dialogue, Dialogue.after, Dialogue.after, turns_bytes]
      rfl
    · rw [runInteractive, app.dialogue_append h, turns_bytes]
      rfl

/-- A provider that fails and keeps the texts that it was asked for. The store was made for vectors
of another length, so the search fails as well, which is reported. What comes behind `QUIT` is not
read. -/
theorem runInteractive_searches_of_quit :
    let provider : Provider (List String) :=
      { dimensions := 1, embed := fun text asked => (.error .missingApiKey, asked ++ [text]) }
    let app : App (List String) := { config := {}, index := default, provider }
    let lines := ["", " find the button\t\r"]
    let rest := " QUIT \nnever reached"
    let printed := prompt ++ (prompt ++ "Searching for: 'find the button'\n" ++
      "Error: search failed: embedding has 1 dimensions, table expects 0\n")
    (∀ line ∈ lines, '\n' ∉ line.toList ∧ ¬ SaysQuit line) ∧
      (dialogue app.answer (inputLines (bytes (unlines lines))) []).state = ["find the button"] ∧
      runInteractive app (bytes (unlines lines ++ rest)) [] default =
        .success (dialogueHeader ++ printed ++ prompt) default := by
  intro provider app lines rest printed
  have hlines : ∀ line ∈ lines, '\n' ∉ line.toList ∧ ¬ SaysQuit line := by decide +kernel
  have hprinted : String.join ((app.searches (linesBeforeQuit (linesOf (unlines lines))) []).map
      shown) = printed := by decide +kernel
  have hrest : linesBeforeQuit (linesOf rest) = [] := by decide +kernel
  obtain ⟨hwhole, happend⟩ := runInteractive_searches app [] (default : FileSystem)
  obtain ⟨hfirst, hstate⟩ := hwhole (unlines lines)
  obtain ⟨said, more, hsaid, hmore, hboth⟩ := happend lines rest hlines
  obtain ⟨hsecond, -⟩ := (runInteractive_searches app _ default).1 rest
  rw [hprinted] at hfirst
  rw [hrest] at hsecond
  have hsaid' : said = dialogueHeader ++ printed := by
    have houtput := congrArg Outcome.output (hsaid.symm.trans hfirst)
    rw [Outcome.success, Outcome.success, ← String.append_assoc] at houtput
    exact (String.append_left_inj prompt).mp houtput
  have hmore' : more = prompt := by
    have houtput := congrArg Outcome.output (hmore.symm.trans hsecond)
    exact (String.append_right_inj dialogueHeader).mp houtput
  rw [hsaid', hmore'] at hboth
  refine ⟨hlines, hstate.trans ?_, hboth⟩
  decide +kernel

end App

end CodeSearch.CommandLine
