import CodeSearch.Config.Document
import CodeSearch.FileTree.FileSystem

/-!
# Configuration files

- `Config.load`: the configuration in a file. A missing file means the default configuration, and
  at the default path it is then written there as a template.
- `Config.save`: writes a configuration to a file.
-/

namespace CodeSearch

/-- Why a configuration cannot be loaded or saved. -/
inductive ConfigError where
  /-- There is a directory at the path. -/
  | directory (path : String)
  /-- The bytes of the file are not a text. -/
  | noText (path : String)
  /-- The file cannot be written. -/
  | unwritable (path : String)
  deriving DecidableEq, Repr

namespace ConfigError

def message : ConfigError → String
  | .directory path => "failed to read config: " ++ path
  | .noText path => "failed to read config: " ++ path
  | .unwritable path => "failed to write config: " ++ path

/-- The text of an error, and then of what caused it. -/
def trace (error : ConfigError) : List String :=
  match error with
  | .directory _ => [error.message, "Is a directory (os error 21)"]
  | .noText _ => [error.message, "stream did not contain valid UTF-8"]
  | .unwritable _ => [error.message]

end ConfigError

namespace Config

/-- The path of the configuration unless another one is given. -/
def defaultPath : String := "code-indexer.json"

/-- Writes a configuration to a file. -/
def save (config : Config) (path : String) (files : FileSystem) : Except ConfigError FileSystem :=
  match files.write? path (Text.Utf8.encode config.toText.toList) with
  | some files => .ok files
  | none => .error (.unwritable path)

/-- The file system in which the default configuration stands at the default path, if it can be
written there. -/
def writeTemplate (files : FileSystem) : FileSystem :=
  match save {} defaultPath files with
  | .ok files => files
  | .error _ => files

/-- The configuration in a file; the empty path stands for the default one. -/
def load (path : String) (files : FileSystem) : FileSystem × Except ConfigError Config :=
  let path := if path = "" then defaultPath else path
  match files.node? path with
  | none => (if path = defaultPath then writeTemplate files else files, .ok {})
  | some node =>
    if node.isDirectory then (files, .error (.directory path))
    else
      match files.readText? path with
      | some text => (files, .ok (ofText text))
      | none => (files, .error (.noText path))

end Config

end CodeSearch
