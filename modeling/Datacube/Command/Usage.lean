import Datacube.Command.Arguments

namespace Datacube.Command

private def variableNote (env : Environment) (name : String) : String :=
  " [env: " ++ name ++ "=" ++ (env.value? name).getD "" ++ "]"

private def programPage (env : Environment) : List String :=
  ["WCPS compiler and WCS response assembly",
   "",
   "Usage: wcps-cli [OPTIONS] <COMMAND>",
   "",
   "Commands:",
   "  compile       Compile a WCPS XML request into RasQL",
   "  get-coverage  Assemble a GML GetCoverage response",
   "  capabilities  Print the capabilities document",
   "  help          Print this message or the help of the given subcommand(s)",
   "",
   "Options:",
   "  -c, --catalog <CATALOG>      Coverage catalog (YAML)" ++ variableNote env "WCPS_CATALOG",
   "      --templates <TEMPLATES>  Directory with response template overrides" ++
     variableNote env "WCPS_TEMPLATE_DIR",
   "      --log-level <LOG_LEVEL>  Log level [default: info]",
   "      --json                   Log as JSON",
   "  -h, --help                   Print help"]

private def compilePage : List String :=
  ["Compile a WCPS XML request into RasQL",
   "",
   "Usage: wcps-cli compile <QUERY>",
   "",
   "Arguments:",
   "  <QUERY>  WCPS XML request file",
   "",
   "Options:",
   "  -h, --help  Print help"]

private def getCoveragePage : List String :=
  ["Assemble a GML GetCoverage response",
   "",
   "Usage: wcps-cli get-coverage [OPTIONS] <COVERAGE_ID>",
   "",
   "Arguments:",
   "  <COVERAGE_ID>  ",
   "",
   "Options:",
   "  -s, --subset <SUBSET>  Subset as axis(low,high), axis,crs(low,high) or axis(point)",
   "  -d, --data <DATA>      CSV file standing in for the query result",
   "  -h, --help             Print help"]

private def capabilitiesPage : List String :=
  ["Print the capabilities document",
   "",
   "Usage: wcps-cli capabilities",
   "",
   "Options:",
   "  -h, --help  Print help"]

private def helpPage : List String :=
  ["Print this message or the help of the given subcommand(s)",
   "",
   "Usage: wcps-cli help [COMMAND]...",
   "",
   "Arguments:",
   "  [COMMAND]...  Print help for the subcommand(s)"]

-- The help on a topic. The page of the program shows the variables that stand in for options.
def helpText (env : Environment) (topic : Topic) : String :=
  let page := match topic with
    | .program => programPage env
    | .compile => compilePage
    | .getCoverage => getCoveragePage
    | .capabilities => capabilitiesPage
    | .help => helpPage
  String.join (page.map (· ++ "\n"))

end Datacube.Command
