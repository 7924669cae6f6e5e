import CloudInventory.CommandLine.Options

/-! What the command line says of itself. -/

namespace CloudInventory.Options

def versionText : String := "gcpinv 0.1.0\n"

/-- What an option takes that has a choice of values, the first of them by default. -/
def choiceText (names : List String) : String :=
  let first := names.headD ""
  let list := ", ".intercalate names
  s!"[default: {first}] [possible values: {list}]"

def helpText : String :=
  "Concurrent inventory of live GCP resources for drift detection against a Terraform baseline\n\n" ++
  "Usage: gcpinv [OPTIONS]\n\n" ++
  "Options:\n" ++
  "  -p, --project <PROJECT>          GCP project to scan\n" ++
  "      --parallelism <PARALLELISM>  Maximum concurrent resource reads\n" ++
  "      --exclude <TYPE>             Resource type to skip (repeatable)\n" ++
  "      --only <TYPE>                Only scan this resource type (repeatable)\n" ++
  "  -o, --output <OUTPUT>            Output format " ++
    choiceText (ReportFormat.all.map ReportFormat.name) ++ "\n" ++
  "      --log-level <LOG_LEVEL>      Log level for debugging " ++
    choiceText (LogLevel.all.map LogLevel.name) ++ "\n" ++
  "      --api-root <URL>             Base URL replacing every Google API host\n" ++
  "      --save-config                Persist the effective project, parallelism and exclusions\n" ++
  "      --list-types                 Print the supported resource types and exit\n" ++
  "  -h, --help                       Print help\n" ++
  "  -V, --version                    Print version\n"

def Fault.message : Fault → String
  | .unexpected argument => s!"unexpected argument '{argument}' found"
  | .noValue key => s!"a value is required for '--{key.name}' but none was supplied"
  | .unneededValue key => s!"unexpected value for '--{key.name}' found; no more were expected"
  | .wrongValue key value => s!"invalid value '{value}' for '--{key.name}'"
  | .repeated key => s!"the argument '--{key.name}' cannot be used multiple times"

def Fault.text (f : Fault) : String :=
  s!"error: {f.message}\n\nUsage: gcpinv [OPTIONS]\n\nFor more information, try '--help'.\n"

end CloudInventory.Options
