import CodeSearch.CommandLine.Dialogue
import CodeSearch.CommandLine.Help
import CodeSearch.Config.File
import CodeSearch.Embedding.Mock
import CodeSearch.Embedding.Service
import CodeSearch.Indexing
import CodeSearch.Store.OpenIndex

/-!
# Running commands

A command is a function from its arguments and its surroundings to an outcome: an exit code, what
it prints, and the files as it leaves them.

- `Config.provider?`: the provider that a configuration asks for.
- `openStore`, `App.open?`: the store, and the provider as well, that a command works with.
- `runIndex`, `runSearch`, `runKeyword`, `runStatistics`, `runInteractive`: the commands.
- `run`: a run of the program.
-/

namespace CodeSearch

/-- The provider that a configuration asks for, given the key for a service. -/
def Config.provider? {τ : Type} (config : Config) (transport : Service.Transport τ)
    (key : Option String) : Except EmbedError (Provider τ) :=
  let embedding := config.embedding
  match embedding.provider with
  | .mock => .ok (Mock.provider embedding.dimensions.toNat)
  | .service =>
    (Service.create (key.getD "") embedding.apiBase embedding.model
      embedding.dimensions.toNat).map fun service => service.provider transport

namespace CommandLine

variable {τ : Type}

/-- What the program finds when it starts: files, its input, a key in its environment, the grammars,
and a way to the embedding service. -/
structure Surroundings (τ : Type) where
  files : FileSystem
  input : List UInt8
  apiKey : Option String := none
  grammar : Grammar
  transport : Service.Transport τ
  state : τ

/-- What a run of the program leaves behind. -/
structure Outcome where
  code : Nat
  output : String
  errors : String
  files : FileSystem
  deriving Repr, Inhabited

namespace Outcome

/-- A run that succeeds. -/
def success (output : String) (files : FileSystem) : Outcome :=
  { code := 0, output, errors := "", files }

/-- A run that fails after it has printed something. -/
def failed (output : String) (failure : Failure) (files : FileSystem) : Outcome :=
  { code := 1, output, errors := failure.report, files }

/-- A run with arguments that ask for nothing. -/
def misused (error : UsageError) (files : FileSystem) : Outcome :=
  { code := 2, output := "", errors := unlines ["error: " ++ error.message], files }

end Outcome

/-! ## Opening -/

/-- Opens the store of a configuration that has no problems. -/
def openStore (config : Config) (files : FileSystem) : FileSystem × Except Failure OpenIndex :=
  match config.problem? with
  | some problem => (files, .error (.causedBy "invalid configuration" [problem.message]))
  | none =>
    let (files, outcome) := files.openIndex config.databasePath config.storeOptions
    (files, outcome.mapError fun error =>
      .causedBy ("failed to open index at " ++ config.databasePath) error.trace)

/-- Everything that a command needs: the configuration, the open store, and the provider. -/
structure App (τ : Type) where
  config : Config
  index : OpenIndex
  provider : Provider τ

/-- Opens the store, and then the provider, given the key from the command line. -/
def App.open? (config : Config) (around : Surroundings τ) (key : Option String)
    (files : FileSystem) : FileSystem × Except Failure (App τ) :=
  match openStore config files with
  | (files, .error failure) => (files, .error failure)
  | (files, .ok index) =>
    match config.provider? around.transport (config.apiKey? key around.apiKey) with
    | .ok provider => (files, .ok { config, index, provider })
    | .error error =>
      (files, .error (.causedBy "failed to create OpenAI embedder" [error.message]))

/-! ## Commands -/

namespace App

/-- What indexing a directory works with. -/
def indexer (app : App τ) : Indexer StoreError Database τ :=
  { store := app.index.handle.store
    provider := app.provider
    splitter := app.config.splitter
    embedText := app.config.embedText }

/-- Searches the index: what is printed, how the search fails if it does, and the state of the
provider after it. -/
def search (app : App τ) (query : String) (limit : Nat) (threshold : Single) (state : τ) :
    Dialogue τ :=
  match CodeSearch.search app.index.handle.store app.provider query limit threshold
      app.index.database state with
  | (.ok hits, state) => { output := searchReport query ++ hitsReport hits, state }
  | (.error error, state) =>
    { output := searchReport query, failure := some (.causedBy "search failed" error.trace), state }

/-- The answer to a query in a dialogue. -/
def answer (app : App τ) (query : String) (state : τ) : String × τ :=
  let found :=
    app.search query app.config.searchLimit.toNat app.config.searchThreshold state
  (found.output ++ (found.failure.map Failure.line).getD "", found.state)

end App

/-- The end of a run in which something was printed that may have failed. -/
def Dialogue.outcome (dialogue : Dialogue τ) (files : FileSystem) : Outcome :=
  match dialogue.failure with
  | none => .success dialogue.output files
  | some failure => .failed dialogue.output failure files

/-- Indexes the source files below a directory. -/
def runIndex (app : App τ) (grammar : Grammar) (path : Option String) (state : τ)
    (files : FileSystem) : Outcome :=
  let root := path.getD app.config.sourceDirectory
  let chunker : Chunker := { strategy := app.config.extractor, grammar }
  let found := chunker.chunkDirectory files root app.config.extensions
  let progress := app.indexer.indexChunks found.chunks app.index.database state
  let index := { app.index with database := progress.content }
  .success
    (sourcesReport root found ++ indexedReport progress.stored ++
      statisticsReport (index.handle.statistics index.database))
    (index.save files)

/-- Searches for one query. -/
def runSearch (app : App τ) (query : String) (limit : Option UInt64) (threshold : Option Single)
    (state : τ) (files : FileSystem) : Outcome :=
  let limit := (limit.getD app.config.searchLimit).toNat
  (app.search query limit (threshold.getD app.config.searchThreshold) state).outcome files

/-- Searches for a keyword. -/
def runKeyword (config : Config) (index : OpenIndex) (keyword : String) (limit : Option UInt64)
    (files : FileSystem) : Outcome :=
  match index.handle.keyword keyword (limit.getD config.searchLimit).toNat index.database with
  | .ok records => .success (keywordReport keyword records) files
  | .error error => .failed "" (.causedBy "keyword search failed" error.trace) files

/-- Shows the statistics of the index. -/
def runStatistics (index : OpenIndex) (files : FileSystem) : Outcome :=
  .success (statisticsReport (index.handle.statistics index.database)) files

/-- Reads queries from the input and searches for each of them. -/
def runInteractive (app : App τ) (input : List UInt8) (state : τ) (files : FileSystem) : Outcome :=
  (dialogue app.answer (inputLines input) state).outcome files

/-! ## Runs -/

/-- Goes on with the store of a configuration. -/
def withStore (config : Config) (files : FileSystem)
    (next : OpenIndex → FileSystem → Outcome) : Outcome :=
  match openStore config files with
  | (files, .ok index) => next index files
  | (files, .error failure) => .failed "" failure files

/-- Goes on with the store and the provider of a configuration. -/
def withApp (config : Config) (around : Surroundings τ) (key : Option String)
    (files : FileSystem) (next : App τ → FileSystem → Outcome) : Outcome :=
  match App.open? config around key files with
  | (files, .ok app) => next app files
  | (files, .error failure) => .failed "" failure files

/-- Runs a command with a configuration. -/
def runCommand (command : Command) (config : Config) (around : Surroundings τ)
    (files : FileSystem) : Outcome :=
  match command with
  | .index path key =>
    withApp config around key files fun app files =>
      runIndex app around.grammar path around.state files
  | .search query limit threshold =>
    withApp config around none files fun app files =>
      runSearch app query limit threshold around.state files
  | .keyword keyword limit =>
    withStore config files fun index files => runKeyword config index keyword limit files
  | .statistics => withStore config files runStatistics
  | .interactive =>
    withApp config around none files fun app files =>
      runInteractive app around.input around.state files

/-- Runs the program with arguments. -/
def run (arguments : List String) (around : Surroundings τ) : Outcome :=
  match Request.ofArguments arguments with
  | .error error => .misused error around.files
  | .ok .version => .success versionText around.files
  | .ok (.help topic) => .success (helpText topic) around.files
  | .ok (.run configPath command) =>
    match Config.load configPath around.files with
    | (files, .error error) => .failed "" (.ofTrace error.trace) files
    | (files, .ok config) => runCommand command config around files

end CommandLine

end CodeSearch
