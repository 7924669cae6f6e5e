import CloudInventory.CommandLine.Options
import CloudInventory.Config
import CloudInventory.ResourceType

/-! What a run is going to do. Every check comes before the run acts: the types that are named,
then the configuration with the options laid over it, then the project. -/

namespace CloudInventory

structure Plan where
  config : Config
  project : String
  types : List ResourceType
  stores : Bool
  format : ReportFormat
deriving DecidableEq, Repr

namespace Plan

def unknownType? (o : Options) : Option String :=
  (o.exclude ++ o.only).find? fun name => !ResourceType.isKnown name

/-- Options take the place of what is configured; exclusions add to it. -/
def merged (o : Options) (c : Config) : Config :=
  Config.excluding o.exclude
    { c with
      project := o.project.or c.project
      parallelism := o.parallelism.getD c.parallelism
      apiRoot := o.apiRoot.or c.apiRoot }

def selected (only : List String) (c : Config) : List ResourceType :=
  ResourceType.all.filter fun t => c.isSelected only t.name

def checkTypes (o : Options) : Except Failure Unit :=
  match unknownType? o with
  | some name =>
    .error ⟨s!"Unknown resource type '{name}'. Use --list-types to see supported types", []⟩
  | none => .ok ()

def checkedProject (e : Environment) (c : Config) : Except Failure String :=
  match c.effectiveProject? e with
  | none =>
    .error ⟨"No GCP project configured. Set GOOGLE_CLOUD_PROJECT or use --project flag", []⟩
  | some project =>
    if Project.isWellFormed project then .ok project
    else .error ⟨s!"Invalid GCP project ID '{project}'", []⟩

def of (o : Options) (e : Environment) : Except Failure Plan := do
  checkTypes o
  let config := merged o (Config.load e)
  config.check
  let project ← checkedProject e config
  let config := { config with project := some project }
  return {
    config, project
    types := selected o.only config
    stores := o.saveConfig
    format := o.output.getD .json }

end Plan

end CloudInventory
