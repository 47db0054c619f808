import Quarry.CommandLine

/-!
The texts that the program shows on demand: its version and the help on its tasks.
-/

namespace Quarry

def version : String := "dq 0.1.0"

def HelpTopic.lines (settings : Option String) : HelpTopic → List String
  | .program => [
      "Query in-memory records with EQUAL/GREATER_THAN/LESS_THAN/NOT/AND/OR",
      "",
      "Usage: dq [OPTIONS] <COMMAND>",
      "",
      "Commands:",
      "  query  Run one query and print matching records",
      "  shell  Read \x60GET <query>\x60 / \x60POST <json>\x60 lines from stdin",
      "  help   Print this message or the help of the given subcommand(s)",
      "",
      "Options:",
      "      --config <CONFIG>  Config file (JSON) [env: DATAQUERY_CONFIG=" ++
        settings.getD "" ++ "]",
      "  -l, --load <LOAD>      JSONL record files to load, after the configured seed files",
      "      --compact          Compact JSON output (overrides config)",
      "  -h, --help             Print help",
      "  -V, --version          Print version"]
  | .query => [
      "Run one query and print matching records",
      "",
      "Usage: dq query <QUERY>",
      "",
      "Arguments:",
      "  <QUERY>  Query string, e.g. \"EQUAL(title,'request')\"",
      "",
      "Options:",
      "  -h, --help  Print help"]
  | .shell => [
      "Read \x60GET <query>\x60 / \x60POST <json>\x60 lines from stdin",
      "",
      "Usage: dq shell",
      "",
      "Options:",
      "  -h, --help  Print help"]
  | .help => [
      "Print this message or the help of the given subcommand(s)",
      "",
      "Usage: dq help [COMMAND]...",
      "",
      "Arguments:",
      "  [COMMAND]...  Print help for the subcommand(s)"]

/-- The help on a topic; `settings` is the settings file that the environment names. -/
def HelpTopic.text (topic : HelpTopic) (settings : Option String) : String :=
  String.join ((topic.lines settings).map fun line => line ++ "\n")

/-- What is shown when the arguments are rejected. -/
def usage : String :=
  "error: invalid arguments\n\nUsage: dq [OPTIONS] <COMMAND>\n\n" ++
    "For more information, try '--help'.\n"

end Quarry
