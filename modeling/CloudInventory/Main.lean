import CloudInventory.CommandLine.Run
import Std.Time.DateTime.Timestamp

/-! The program: it gathers what surrounds the run, lets the run tell what to do, and does it. -/

namespace CloudInventory

def readSettings : IO (Dict Setting) := do
  let names := ["HOME", "XDG_CONFIG_HOME", "CLOUDSDK_CONFIG"] ++ Project.settingNames
  let values ← names.mapM fun name => do
    return (← IO.getEnv name).map fun value => (name, Setting.text value)
  return values.filterMap id

def readFile? (p : Path) : IO (Option (Path × List UInt8)) := do
  match p.text? with
  | none => return none
  | some name =>
    try
      return some (p, (← IO.FS.readBinFile name).toList)
    catch _ => return none

def withFiles (settings : Dict Setting) (paths : List Path) : IO Environment := do
  let files := (← paths.mapM readFile?).filterMap id
  return {
    setting? := fun name => Dict.find? name settings
    accountHome := none
    octets? := fun p => (files.find? fun f => f.1 = p).map (·.2) }

/-- The files that a run may look at; which of the configurations is active stands in one of
them. -/
def readEnvironment : IO Environment := do
  let settings ← readSettings
  let bare ← withFiles settings []
  let dirs := (Project.settingsDir? bare).toList
  let first := (Config.file? bare).toList ++
    dirs.flatMap fun dir => [dir.child "properties", dir.child "active_config"]
  let e ← withFiles settings first
  withFiles settings (first ++ dirs.filterMap (Project.activeFile? e))

def writeFile (p : Path) (content : String) : IO (Option Config.Obstacle) := do
  let parent := (Path.text? { p with below := p.below.dropLast }).getD ""
  try IO.FS.createDirAll parent
  catch e => return some (.directory (toString e))
  try
    IO.FS.writeFile (p.text?.getD "") content
    return none
  catch e => return some (.file (toString e))

/-- Stores the configuration if the run is going to, and tells what kept it from that. -/
def writeConfig (e : Environment) (arguments : List String) : IO (Option Config.Obstacle) := do
  match Options.read arguments with
  | .ok (.run o) =>
    if o.listTypes then return none
    match Plan.of o e, Config.file? e with
    | .ok p, some file => if p.stores then writeFile file p.config.text else return none
    | _, _ => return none
  | _ => return none

def openLog (e : Environment) (arguments : List String) : IO (Option Config.Obstacle) := do
  match Options.read arguments with
  | .ok (.run o) =>
    if o.logLevel.getD .off = .off then return none
    match Run.logFile? e with
    | none => return none
    | some p =>
      let old := ((← readFile? p).map (·.2)).bind Text.ofUtf8?
      writeFile p (old.getD "")
  | _ => return none

def randomScanId : IO ScanId := do
  let bytes ← IO.getRandomBytes 16
  let n := bytes.toList.foldl (fun n b => n * 256 + b.toNat) 0
  let version := 0x4 <<< 76
  let variant := 0x8 <<< 60
  let random := n &&& (1 <<< 128 - 1 - (0xF <<< 76) - (0xC <<< 60))
  return ⟨random ||| version ||| variant⟩

def now : IO Timestamp := do
  let t ← Std.Time.Timestamp.now
  let n := t.toNanosecondsSinceUnixEpoch.toInt
  return ⟨n.fdiv 1000000000, (n.fmod 1000000000).toNat⟩

end CloudInventory

open CloudInventory in
/-- There is neither a source of credentials nor a connection in here. -/
def main (arguments : List String) : IO UInt32 := do
  let e ← readEnvironment
  let logObstacle ← CloudInventory.openLog e arguments
  let obstacle ← writeConfig e arguments
  let noCredentials : Error :=
    .auth ("no available authentication method found. " ++
      "Run 'gcloud auth application-default login'")
  let w : World := {
    environment := e
    obstacle? := fun p => if some p = Run.logFile? e then logObstacle else obstacle
    credentials := .error noCredentials
    answer := fun _ _ => .error ⟨none, "no connection"⟩
    scanId := ← randomScanId
    now := ← now }
  let r := Run.run w arguments (1 <<< 62)
  IO.print r.output
  IO.eprint r.errors
  return UInt32.ofNat r.exitCode
