import CodeSearch.CommandLine.Report
import CodeSearch.Text.Blank

/-!
# Dialogues

In a dialogue, queries are read line by line and answered until a line says `quit` or the input
ends. Each line that is read gets a prompt, and so does the end of the input.

- `inputLines`: the lines of an input; `none` stands for a line that is no text.
- `Turn.of`: what a line asks for.
- `dialogue`: everything that is printed, given the answers to queries.
-/

namespace CodeSearch.CommandLine

/-- Puts a byte in front of the first row. -/
def consByte (byte : UInt8) : List (List UInt8) → List (List UInt8)
  | [] => [[byte]]
  | row :: rows => (byte :: row) :: rows

/-- The bytes between line feeds. Nothing comes after the last line feed if the bytes end there. -/
def byteRows : List UInt8 → List (List UInt8)
  | [] => []
  | byte :: bytes =>
    if byte = 0x0A then [] :: byteRows bytes else consByte byte (byteRows bytes)

@[simp] theorem byteRows_nil : byteRows [] = [] := rfl

theorem byteRows_cons (byte : UInt8) (bytes : List UInt8) :
    byteRows (byte :: bytes) =
      if byte = 0x0A then [] :: byteRows bytes else consByte byte (byteRows bytes) := rfl

/-- The lines of an input. Bytes that are no text are no line. -/
def inputLines (bytes : List UInt8) : List (Option String) :=
  (byteRows bytes).map fun row => (Text.Utf8.text? row).map String.ofList

/-- What a line asks for. -/
inductive Turn where
  | quit
  | nothing
  | query (text : String)
  deriving DecidableEq, Repr

/-- What a line asks for, blanks around it aside. -/
def Turn.of (line : String) : Turn :=
  let text := Text.trimString line
  if String.ofList (text.toList.map Char.toLower) = "quit" then .quit
  else if text = "" then .nothing
  else .query text

/-- What is printed first. -/
def dialogueHeader : String :=
  unlines ["Interactive Code Search Mode", "Type 'quit' to exit", rule '-' 40]

/-- What is printed before a line is read. -/
def prompt : String := "\nEnter search query: "

/-- The failure of reading a line that is no text. -/
def unreadableLine : Failure := { message := "stream did not contain valid UTF-8" }

/-- What a dialogue prints, how it fails if it does, and the state that answering leaves. -/
structure Dialogue (τ : Type) where
  output : String
  failure : Option Failure := none
  state : τ

variable {τ : Type}

/-- The dialogue with more output in front. -/
def Dialogue.after (text : String) (dialogue : Dialogue τ) : Dialogue τ :=
  { dialogue with output := text ++ dialogue.output }

/-- The turns of a dialogue, without its header. -/
def turns (answer : String → τ → String × τ) : List (Option String) → τ → Dialogue τ
  | [], state => { output := prompt, state }
  | none :: _, state => { output := prompt, failure := some unreadableLine, state }
  | some line :: lines, state =>
    match Turn.of line with
    | .quit => { output := prompt, state }
    | .nothing => (turns answer lines state).after prompt
    | .query text =>
      let (reply, state) := answer text state
      (turns answer lines state).after (prompt ++ reply)

@[simp] theorem turns_nil (answer : String → τ → String × τ) (state : τ) :
    turns answer [] state = { output := prompt, state } := rfl

/-- Nothing is read after a line that says `quit`. -/
theorem turns_of_quit (answer : String → τ → String × τ) {line : String}
    (h : Turn.of line = .quit) (lines : List (Option String)) (state : τ) :
    turns answer (some line :: lines) state = turns answer [] state := by
  simp [turns, h]

/-- A blank line costs one prompt. -/
theorem turns_of_nothing (answer : String → τ → String × τ) {line : String}
    (h : Turn.of line = .nothing) (lines : List (Option String)) (state : τ) :
    turns answer (some line :: lines) state = (turns answer lines state).after prompt := by
  simp [turns, h]

/-- A query is answered behind its prompt. -/
theorem turns_of_query (answer : String → τ → String × τ) {line text : String}
    (h : Turn.of line = .query text) (lines : List (Option String)) (state : τ) :
    turns answer (some line :: lines) state =
      (turns answer lines (answer text state).2).after (prompt ++ (answer text state).1) := by
  simp [turns, h]

/-- A dialogue. -/
def dialogue (answer : String → τ → String × τ) (lines : List (Option String)) (state : τ) :
    Dialogue τ :=
  (turns answer lines state).after dialogueHeader

end CodeSearch.CommandLine
