import CloudInventory.Text.Utf8

/-! What surrounds a run: environment variables, directories and files. -/

namespace CloudInventory

/-- The value of an environment variable; not every sequence of octets is text. -/
inductive Setting where
  | text (s : String)
  | octets (bytes : List UInt8)
deriving DecidableEq

namespace Setting

def text? : Setting → Option String
  | .text s => some s
  | .octets _ => none

def isEmpty : Setting → Bool
  | .text s => s.isEmpty
  | .octets bytes => bytes.isEmpty

def isAbsolute : Setting → Bool
  | .text s => s.toList.head? == some '/'
  | .octets bytes => bytes.head? == some 47

end Setting

/-- A file or directory: where the path starts, and the names that lead on from there. -/
structure Path where
  base : Setting
  below : List String
deriving DecidableEq

namespace Path

def of (base : Setting) : Path := ⟨base, []⟩

def child (p : Path) (name : String) : Path := ⟨p.base, p.below ++ [name]⟩

/-- A directory written with a slash at its end takes no other before the next name. -/
def join (dir name : List Char) : List Char :=
  if dir.isEmpty ∨ dir.getLast? = some '/' then dir ++ name else dir ++ '/' :: name

def text? (p : Path) : Option String :=
  p.base.text?.map fun s => String.ofList (p.below.foldl (fun dir n => join dir n.toList) s.toList)

end Path

structure Environment where
  setting? : String → Option Setting
  /-- The home directory that the account has, whatever the variables say. -/
  accountHome : Option Setting
  octets? : Path → Option (List UInt8)

namespace Environment

def text? (e : Environment) (p : Path) : Option String := (e.octets? p).bind Text.ofUtf8?

def home? (e : Environment) : Option Path :=
  (((e.setting? "HOME").filter fun s => !s.isEmpty).or e.accountHome).map Path.of

/-- The directory of a user's configurations; a relative one is as good as none. -/
def configDir? (e : Environment) : Option Path :=
  match (e.setting? "XDG_CONFIG_HOME").filter Setting.isAbsolute with
  | some dir => some (.of dir)
  | none => e.home?.map (·.child ".config")

end Environment

end CloudInventory
