import CodeSearch.CommandLine.Arguments
import CodeSearch.CommandLine.Report

/-!
# Help

- `helpText`: the help on the program, on one command, or on help itself.
- `versionText`: the name and the version of the program.
-/

namespace CodeSearch.CommandLine

/-- The name of the program. -/
def programName : String := "code-indexer"

/-- The version of the program. -/
def versionText : String := programName ++ " 0.3.0\n"

/-- What a command does. -/
def CommandName.about : CommandName → String
  | .index => "Chunk a source directory and index every chunk"
  | .search => "Semantic search over indexed chunks"
  | .keyword => "Substring search over chunk code and names"
  | .statistics => "Show index statistics"
  | .interactive => "Read queries from stdin and search each one"

/-- The words of a command and what they are for. -/
def CommandName.words : CommandName → List (String × String)
  | .index =>
    [("[PATH]", "Directory to index (default: source_dir from config)"),
     ("[API_KEY]", "Embedding API key (overrides config and OPENAI_API_KEY)")]
  | .search => [("<QUERY>", "")]
  | .keyword => [("<KEYWORD>", "")]
  | _ => []

/-- What an option is for. -/
def optionHelp (option : String) : String × String :=
  match option with
  | "config" =>
    ("    --config <CONFIG>",
     "Path to configuration file (default: code-indexer.json) [default: \"\"]")
  | "limit" => ("    --limit <LIMIT>", "")
  | "threshold" => ("    --threshold <THRESHOLD>", "")
  | "help" => ("-h, --help", "Print help")
  | "version" => ("-V, --version", "Print version")
  | _ => (option, "")

/-- What asking for help does. -/
def helpAbout : String := "Print this message or the help of the given subcommand(s)"

/-- Two columns, the first one as wide as its longest entry. -/
def columns (rows : List (String × String)) : List String :=
  let width := (rows.map fun row => row.1.length).foldl max 0
  rows.map fun row => "  " ++ row.1 ++ rule ' ' (width - row.1.length) ++ "  " ++ row.2

/-- A section of help, unless it is empty. -/
def helpSection (title : String) (rows : List (String × String)) : List String :=
  if rows.isEmpty then [] else "" :: (title ++ ":") :: columns rows

/-- The help on a command. -/
def commandHelp (command : CommandName) : String :=
  let words := String.join (command.words.map fun word => " " ++ word.1)
  unlines
    ([command.about, "",
      "Usage: " ++ programName ++ " " ++ command.name ++ " [OPTIONS]" ++ words] ++
     helpSection "Arguments" command.words ++
     helpSection "Options" ((command.options ++ ["help"]).map optionHelp))

/-- The help on the program. -/
def programHelp : String :=
  unlines
    (["Index TypeScript/JavaScript code units and search them semantically", "",
      "Usage: " ++ programName ++ " [OPTIONS] <COMMAND>"] ++
     helpSection "Commands"
      (CommandName.all.map (fun command => (command.name, command.about)) ++
        [("help", helpAbout)]) ++
     helpSection "Options" (["config", "help", "version"].map optionHelp))

/-- The help on help. -/
def helpHelp : String :=
  unlines
    ([helpAbout, "", "Usage: " ++ programName ++ " help [COMMAND]..."] ++
     helpSection "Arguments" [("[COMMAND]...", "Print help for the subcommand(s)")])

/-- The help on a topic. -/
def helpText : HelpTopic → String
  | .program => programHelp
  | .command command => commandHelp command
  | .help => helpHelp

end CodeSearch.CommandLine
