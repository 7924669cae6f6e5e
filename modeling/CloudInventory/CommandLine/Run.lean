import CloudInventory.Client.Basic
import CloudInventory.CommandLine.Plan
import CloudInventory.CommandLine.Usage
import CloudInventory.Scan.Schedule

/-! A run of the command line, from the arguments to what is printed and written. -/

namespace CloudInventory

/-- All that a run meets outside itself. -/
structure World where
  environment : Environment
  /-- What keeps a file from being written. -/
  obstacle? : Path → Option Config.Obstacle
  /-- The user's credentials, if there are any, with the token that they give. -/
  credentials : Except Error (Except Error String)
  answer : (url token : String) → Except TransportFault Response
  scanId : ScanId
  now : Timestamp

structure Outcome where
  exitCode : Nat
  output : String := ""
  errors : String := ""
  stored : Option (Path × String) := none
  log : Option Path := none
  calls : List (ListRequest × Option String) := []
  reads : List ReadArgs := []

namespace Run

def usageCode : Nat := 2

def brokenCode : Nat := 101

def typeLine (t : ResourceType) : String :=
  s!"{Report.padRight 40 t.name} {t.definition.displayName}\n"

def typeList : String :=
  String.join ((ResourceType.sortedNames.filterMap ResourceType.ofName?).map typeLine)

def warningLines (alerts : Alerts) : String :=
  String.join (alerts.flatMap fun (type, list) =>
    list.map fun a => s!"Warning [{type}]: {a.message}\n")

def logFile? (e : Environment) : Option Path :=
  e.configDir?.map fun dir => (dir.child "gcpinv").child "gcpinv.log"

/-- The log is opened for any level but `off`; without one the run goes on. -/
def openLog (w : World) (o : Options) : Outcome :=
  if o.logLevel.getD .off = .off then { exitCode := 0 }
  else
    let p := (logFile? w.environment).getD ⟨.text "gcpinv.log", []⟩
    match w.obstacle? p with
    | none => { exitCode := 0, log := some p }
    | some (.directory reason) | some (.file reason) =>
      { exitCode := 0
        errors := s!"Logging disabled, cannot open {Config.quotedPath p.below p}: {reason}\n" }

def failed (f : Failure) (r : Outcome) : Outcome :=
  { r with exitCode := 1, errors := r.errors ++ f.report }

def store (w : World) (p : Plan) : Except Failure (Option (Path × String)) :=
  match p.stores, Config.file? w.environment with
  | true, some file =>
    match w.obstacle? file with
    | some obstacle =>
      .error ((Config.notStored file obstacle).within "Failed to save configuration")
    | none => .ok (some (file, p.config.text))
  | _, _ => .ok none

def client (w : World) (p : Plan) : Except Failure Client :=
  match w.credentials.bind fun token => Client.new p.project p.config.apiRoot token w.answer with
  | .ok c => .ok c
  | .error e => .error ⟨"Failed to initialize GCP client", [e.message]⟩

def scanFailure (e : Error) : Failure := ⟨s!"Scan failed: {e.describe}", []⟩

/-- The scan itself, and the report of what it found. -/
def scan (w : World) (p : Plan) (c : Client) (pool : Pool State) (fuel : Nat) (r : Outcome) :
    Outcome :=
  let start := Scan.start p.project p.types pool Alerts.empty
  let (result, done) := Scan.run c.source fuel start
  let r := { r with calls := done.calls, reads := done.reads }
  match result with
  | .error e => failed (scanFailure e) r
  | .ok resources =>
    let inventory : Inventory := ⟨w.scanId, p.project, w.now, resources, done.alerts⟩
    { r with
      output := Report.render inventory p.format ++ "\n"
      errors := r.errors ++ warningLines done.alerts }

def execute (w : World) (p : Plan) (fuel : Nat) (r : Outcome) : Outcome :=
  match store w p with
  | .error f => failed f r
  | .ok stored =>
    let r := { r with stored }
    match client w p with
    | .error f => failed f r
    | .ok c =>
      match Pool.new? p.config.parallelism.toNat with
      | none => { r with exitCode := brokenCode }
      | some pool => scan w p c pool fuel r

def withOptions (w : World) (o : Options) (fuel : Nat) : Outcome :=
  let r := openLog w o
  if o.listTypes then { r with output := typeList }
  else match Plan.of o w.environment with
    | .error f => failed f r
    | .ok p => execute w p fuel r

/-- A whole run; `fuel` bounds the steps of its scan. -/
def run (w : World) (arguments : List String) (fuel : Nat) : Outcome :=
  match Options.read arguments with
  | .error fault => { exitCode := usageCode, errors := fault.text }
  | .ok .help => { exitCode := 0, output := Options.helpText }
  | .ok .version => { exitCode := 0, output := Options.versionText }
  | .ok (.run o) => withOptions w o fuel

end Run

end CloudInventory
