import CodeSearch.Chunk
import CodeSearch.Purpose
import CodeSearch.Text.Decimal

/-!
# The text that stands for a chunk

What is embedded for a part of a chunk is either the code itself or a description: six lines
that say where the chunk is, what it is, and what it is for. One index keeps to one choice, since
vectors of different kinds of text cannot be compared.
-/

namespace CodeSearch

/-- Which text is embedded for a part of a chunk. -/
inductive EmbedText where
  | description
  | rawCode
  deriving DecidableEq, Repr, Inhabited

/-- The purpose line of code that has no comment. -/
def noPurpose : String :=
  "No explicit docstring or comment found. This chunk may define a function, class, or code block."

/-- The purpose line of a piece of code. -/
def purposeOrDefault (code : String) : String :=
  (purposeLine code).getD noPurpose

/-- The description of a part of a chunk. -/
def describe (chunk : Chunk) (part : String) : String :=
  "File: " ++ chunk.file.path ++
    "\nChunk Name: " ++ chunk.name ++
    "\nChunk Type: " ++ chunk.kind ++
    "\nStart Line: " ++ Text.decimal chunk.startLine ++
    ", End Line: " ++ Text.decimal chunk.endLine ++
    "\nTotal Lines: " ++ Text.decimal chunk.file.totalLines ++
    "\nPurpose: " ++ purposeOrDefault part

namespace EmbedText

/-- The name of a choice in settings and configuration. -/
def name : EmbedText → String
  | .description => "description"
  | .rawCode => "raw_code"

/-- Every choice with its name. -/
def choices : List (String × EmbedText) :=
  [(name .description, .description), (name .rawCode, .rawCode)]

/-- A name that stands for no choice. -/
structure UnknownName where
  name : String
  deriving DecidableEq, Repr

def UnknownName.message (error : UnknownName) : String :=
  "unknown embed text policy: " ++ error.name

/-- The choice with the given name. -/
def ofName (name : String) : Except UnknownName EmbedText :=
  match choices.lookup name with
  | some policy => .ok policy
  | none => .error ⟨name⟩

/-- The text that is embedded for a part of a chunk. -/
def render (policy : EmbedText) (chunk : Chunk) (part : String) : String :=
  match policy with
  | .description => describe chunk part
  | .rawCode => part

/-- What is stored as the description of a part, given the embedded text. -/
def storedDescription (policy : EmbedText) (rendered : String) : Option String :=
  match policy with
  | .description => some rendered
  | .rawCode => none

end EmbedText

end CodeSearch
