import CodeSearch.Text.Decimal
import CodeSearch.Vector

/-!
# Embedding providers

A provider turns texts into vectors with a fixed number of dimensions, and may fail. What it
answers may depend on a state that each call changes, such as the replies of a server that are
still to come.

- `Provider.embedOrZero`: the vector of a text, the zero vector when the provider fails. Its cosine
  with any vector is 0.
-/

namespace CodeSearch

/-- Why a provider has no vectors for its texts. -/
inductive EmbedError where
  /-- The request could not be sent or was refused; the reason, if it is known. -/
  | request (reason : Option String)
  /-- The reply is not what was asked for; the reason, if it is known. -/
  | response (reason : Option String)
  | dimensionMismatch (expected actual : Nat)
  | missingApiKey
  deriving DecidableEq, Repr

namespace EmbedError

def message : EmbedError → String
  | .request reason => "embedding request failed: " ++ reason.getD "no connection"
  | .response reason => "unexpected embedding response: " ++ reason.getD "not readable"
  | .dimensionMismatch expected actual =>
    "expected " ++ Text.decimal expected ++ " dimensions, got " ++ Text.decimal actual
  | .missingApiKey => "no API key configured (set embedding.api_key or OPENAI_API_KEY)"

end EmbedError

/-- A source of vectors whose answers depend on a state. -/
structure Provider (σ : Type) where
  dimensions : Nat
  embed : String → σ → Except EmbedError Vector × σ

namespace Provider

/-- A provider whose answer is a fixed function of the text. -/
def ofFunction {σ : Type} (dimensions : Nat) (embed : String → Except EmbedError Vector) :
    Provider σ :=
  { dimensions, embed := fun text state => (embed text, state) }

/-- The vector of a text, or the zero vector when the provider fails. -/
def embedOrZero {σ : Type} (provider : Provider σ) (text : String) (state : σ) : Vector × σ :=
  match provider.embed text state with
  | (.ok vector, state) => (vector, state)
  | (.error _, state) => (Vector.zero provider.dimensions, state)

end Provider

end CodeSearch
