import CloudInventory.Environment
import CloudInventory.Text.Blank

/-! Which project is meant where none is given: the first well-formed one that the environment
names, then the one set in the files of the `gcloud` tool. -/

namespace CloudInventory.Project

def isIdChar (c : Char) : Bool := c.isLower || c.isDigit || c == '-'

/-- Six to thirty small letters, digits and hyphens, a letter first and no hyphen last. -/
def isWellFormed (id : String) : Bool :=
  let cs := id.toList
  let size := Text.utf8Size cs
  6 ≤ size && size ≤ 30 && cs.all isIdChar && cs.head?.any Char.isLower && cs.getLast? != some '-'

/-! ### The file format -/

inductive Line where
  | nothing
  /-- The head of a section, with its brackets. -/
  | section (head : List Char)
  | entry (key value : List Char)
deriving DecidableEq

namespace Line

def ofChars (line : List Char) : Line :=
  let line := Text.trim line
  match line with
  | [] => .nothing
  | '#' :: _ | ';' :: _ => .nothing
  | '[' :: _ => .section line
  | _ =>
    match Text.splitOnce '=' line with
    | none => .nothing
    | some (key, value) => .entry (Text.trim key) (Text.trim value)

end Line

def coreHead : List Char := ['[', 'c', 'o', 'r', 'e', ']']

/-- The first well-formed project; `inside` tells whether the section at hand counts, and
`coreOnly` whether no other than the core section does. -/
def find (coreOnly : Bool) : Bool → List Line → Option String
  | _, [] => none
  | inside, .nothing :: rest => find coreOnly inside rest
  | _, .section head :: rest => find coreOnly (!coreOnly || head == coreHead) rest
  | inside, .entry key value :: rest =>
    let id := String.ofList value
    if inside && String.ofList key == "project" && isWellFormed id then some id
    else find coreOnly inside rest

def ofText (coreOnly : Bool) (content : String) : Option String :=
  find coreOnly (!coreOnly) ((Text.lines content.toList).map Line.ofChars)

/-! ### The places looked at -/

/-- The variables that may name a project, in the order in which they are asked. -/
def settingNames : List String :=
  ["CLOUDSDK_CORE_PROJECT", "GOOGLE_CLOUD_PROJECT", "GCLOUD_PROJECT"]

def ofVariables (e : Environment) : Option String :=
  settingNames.findSome? fun v => ((e.setting? v).bind Setting.text?).filter isWellFormed

def settingsDir? (e : Environment) : Option Path :=
  match e.setting? "CLOUDSDK_CONFIG" with
  | some dir => some (.of dir)
  | none => e.configDir?.map (·.child "gcloud")

def isNameChar (c : Char) : Bool := c.isAlphanum || c == '-' || c == '_'

/-- The name of the active configuration; no name leads out of the directory of configurations. -/
def activeName? (content : String) : Option String :=
  let name := Text.trim content.toList
  if !name.isEmpty && name.all isNameChar then some (String.ofList name) else none

def activeFile? (e : Environment) (dir : Path) : Option Path :=
  ((e.text? (dir.child "active_config")).bind activeName?).map fun name =>
    (dir.child "configurations").child s!"config_{name}"

def ofFile (coreOnly : Bool) (e : Environment) (p : Path) : Option String :=
  (e.text? p).bind (ofText coreOnly)

def ofSettings (e : Environment) (dir : Path) : Option String :=
  (ofFile false e (dir.child "properties")).or ((activeFile? e dir).bind (ofFile true e))

def default? (e : Environment) : Option String :=
  (ofVariables e).or ((settingsDir? e).bind (ofSettings e))

end CloudInventory.Project
