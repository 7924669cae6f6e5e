import CloudInventory.Resource.Basic
import CloudInventory.ScanId
import CloudInventory.Timestamp

/-! Inventories: the resources that one scan found, in the order of their types and identifiers,
with the alerts raised on the way. -/

namespace CloudInventory

structure Inventory where
  scanId : ScanId
  project : String
  scannedAt : Timestamp
  resources : List Resource
  alerts : Alerts
deriving DecidableEq, Repr

namespace Inventory

/-- By type, then identifier, in byte order. -/
def precedes (a b : Resource) : Bool :=
  a.type.name < b.type.name || (a.type.name == b.type.name && a.id ≤ b.id)

def sorted (resources : List Resource) : List Resource := resources.mergeSort precedes

def ofType (type : String) (resources : List Resource) : List Resource :=
  resources.filter fun r => r.type.name == type

/-- The number of resources of each type that occurs. -/
def countByType (resources : List Resource) : Dict Nat :=
  resources.foldl (fun counts r => Dict.update r.type.name 0 (· + 1) counts) []

def alertJson (a : Alert) : Json :=
  .object [("message", .string a.message), ("should_ignore_resource", .bool a.ignoresType)]

def alertsJson (alerts : Alerts) : Json :=
  .object (alerts.mapValues fun list => .array (list.map alertJson))

def toJson (i : Inventory) : Json :=
  .object [
    ("scanId", .string i.scanId.text),
    ("projectId", .string i.project),
    ("scannedAt", .string i.scannedAt.text),
    ("resources", .array (i.resources.map Resource.toJson)),
    ("alerts", alertsJson i.alerts)]

end Inventory

end CloudInventory
