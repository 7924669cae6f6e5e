import CloudInventory.ApiRoot
import CloudInventory.Failure
import CloudInventory.Json.Printer
import CloudInventory.Json.Skipper
import CloudInventory.Project
import CloudInventory.Text.Quoted

/-! The configuration of a user: how it is stored as JSON and read back, what is checked before it
is used, and what it selects. A stored configuration that cannot be read counts for nothing. -/

namespace CloudInventory

structure Config where
  project : Option String := none
  parallelism : UInt64 := 10
  /-- The types that are never scanned, in byte order. -/
  exclude : List String := []
  /-- Stands in for the hosts of all services. -/
  apiRoot : Option String := none
deriving DecidableEq, Repr, Inhabited

namespace Config

/-- Puts a name at its place among names in order, once. -/
def insertName (name : String) : List String → List String
  | [] => [name]
  | n :: rest =>
    if name < n then name :: n :: rest
    else if name = n then n :: rest
    else n :: insertName name rest

def insertNames (names into : List String) : List String :=
  names.foldl (fun into name => insertName name into) into

def excluding (names : List String) (c : Config) : Config :=
  { c with exclude := insertNames names c.exclude }

/-! ### Storage -/

def toJson (c : Config) : Json :=
  .object [
    ("project_id", Json.ofOption .string c.project),
    ("parallelism", .nat c.parallelism.toNat),
    ("exclude", .strings c.exclude),
    ("api_root", Json.ofOption .string c.apiRoot)]

def text (c : Config) : String := c.toJson.pretty

def fieldNames : List String := ["project_id", "parallelism", "exclude", "api_root"]

def readName? : Json → Option (Option String)
  | .null => some none
  | .string s => some (some s)
  | _ => none

def readCount? : Json → Option UInt64
  | .number (.int n) => if 0 ≤ n ∧ n.toNat < 1 <<< 64 then some (UInt64.ofNat n.toNat) else none
  | _ => none

def readNames? (v : Json) : Option (List String) :=
  (v.items?.bind (·.mapM Json.string?)).map (insertNames · [])

def withField? (c : Config) (field : String × Json) : Option Config :=
  match field.1 with
  | "project_id" => (readName? field.2).map fun project => { c with project }
  | "parallelism" => (readCount? field.2).map fun parallelism => { c with parallelism }
  | "exclude" => (readNames? field.2).map fun exclude => { c with exclude }
  | "api_root" => (readName? field.2).map fun apiRoot => { c with apiRoot }
  | _ => none

/-- No field may be given twice, and every one may be absent. -/
def ofFields? (fields : List (String × Json)) : Option Config :=
  if (fields.map (·.1)).Nodup then fields.foldlM withField? {} else none

def readFields : Json.Reading (List (String × Json)) := do
  let fuel := Json.stepsFor (← get)
  match ← Json.Reading.peekToken with
  | some '\x7b' =>
    Json.Reading.drop
    Json.readKnownEntries fieldNames fuel (Json.maxDepth - 1) true
  | some '[' =>
    Json.Reading.drop
    let items ← Json.readItems fuel (Json.maxDepth - 1) true
    if fieldNames.length < items.length then .failNext .trailingCharacters
    else return fieldNames.zip items
  | _ => .failNext .expectedValue

def readStored : Json.Reading (List (String × Json)) := do
  let fields ← readFields
  Json.readEnd
  return fields

def ofText? (text : String) : Option Config :=
  match readStored.run text.toList with
  | .ok (fields, _) => ofFields? fields
  | .error _ => none

/-- The configuration that a file holds, if it is there. -/
def ofOctets (octets : Option (List UInt8)) : Config :=
  ((octets.bind Text.ofUtf8?).bind ofText?).getD {}

def file? (e : Environment) : Option Path :=
  e.configDir?.map fun dir => (dir.child "gcpinv").child "config.json"

def load (e : Environment) : Config := ofOctets ((file? e).bind e.octets?)

inductive Obstacle where
  | directory (reason : String)
  | file (reason : String)

def quotedPath (names : List String) (p : Path) : String :=
  Text.quoted ((Path.text? { p with below := names }).getD "")

def notStored (p : Path) : Obstacle → Failure
  | .directory reason => ⟨s!"Failed to create {quotedPath p.below.dropLast p}", [reason]⟩
  | .file reason => ⟨s!"Failed to write {quotedPath p.below p}", [reason]⟩

/-! ### Use -/

def rootFailure (root : String) : ApiRoot.Fault → Failure
  | .malformed flaw => ⟨s!"Invalid API root '{root}'", [flaw.message]⟩
  | .otherScheme => ⟨s!"API root '{root}' must be an http(s) URL", []⟩

/-- Finds the values that would only fail later. -/
def check (c : Config) : Except Failure Unit := do
  ApiRoot.check rootFailure c.apiRoot
  if c.parallelism = 0 then .error ⟨"Parallelism must be at least 1", []⟩ else .ok ()

/-- Whether a type takes part in a scan, which `only` restricts to some types if there are any;
an exclusion always wins. -/
def isSelected (only : List String) (type : String) (c : Config) : Bool :=
  !c.exclude.contains type && (only.isEmpty || only.contains type)

/-- The project to scan: the one configured, or the default of the environment. -/
def effectiveProject? (e : Environment) (c : Config) : Option String :=
  c.project.or (Project.default? e)

end Config

end CloudInventory
