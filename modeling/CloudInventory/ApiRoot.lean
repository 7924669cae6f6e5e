import CloudInventory.Web.Url

/-! The address that stands in for the hosts of all services. -/

namespace CloudInventory.ApiRoot

inductive Fault where
  | malformed (flaw : Web.Url.Flaw)
  /-- Well formed, but not an address of the web. -/
  | otherScheme
deriving DecidableEq, Repr

def fault? (root : String) : Option Fault :=
  match Web.Url.scheme root with
  | .error flaw => some (.malformed flaw)
  | .ok scheme => if scheme == "http" || scheme == "https" then none else some .otherScheme

/-- There may be no such address; a fault of one is reported with it. -/
def check (report : String → Fault → ε) : Option String → Except ε Unit
  | none => .ok ()
  | some root =>
    match fault? root with
    | none => .ok ()
    | some fault => .error (report root fault)

end CloudInventory.ApiRoot
