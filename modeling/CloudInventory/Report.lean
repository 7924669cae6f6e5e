import CloudInventory.Inventory
import CloudInventory.Json.Printer
import CloudInventory.Yaml.Printer

/-! Reports of an inventory: the whole of it as JSON or YAML, or a summary that counts the
resources of each type and repeats the alerts. -/

namespace CloudInventory

inductive ReportFormat where
  | json
  | yaml
  | summary
deriving DecidableEq, Repr

namespace ReportFormat

def all : List ReportFormat := [.json, .yaml, .summary]

def name : ReportFormat → String
  | .json => "json"
  | .yaml => "yaml"
  | .summary => "summary"

def ofName? (name : String) : Option ReportFormat := all.find? fun f => f.name == name

end ReportFormat

namespace Report

def padRight (width : Nat) (s : String) : String :=
  String.ofList (s.toList ++ List.replicate (width - s.length) ' ')

def columnWidth (counts : Dict Nat) : Nat := (counts.map (·.1.length)).foldl max 0

def countLine (width : Nat) (entry : String × Nat) : String :=
  s!"  {padRight width entry.1}  {entry.2}"

def alertLines (entry : String × List Alert) : List String :=
  entry.2.map fun a => s!"  [{entry.1}] {a.message}"

def heading (i : Inventory) : String :=
  s!"Project {i.project} scanned at {i.scannedAt.shortText} (scan {i.scanId.text})"

def summaryLines (i : Inventory) : List String :=
  let counts := Inventory.countByType i.resources
  let alerts := if i.alerts.isEmpty then [] else "Alerts:" :: i.alerts.flatMap alertLines
  heading i :: (counts.map (countLine (columnWidth counts)) ++
    s!"Total: {i.resources.length} resources" :: alerts)

def summary (i : Inventory) : String := String.join ((summaryLines i).map (· ++ "\n"))

def render (i : Inventory) : ReportFormat → String
  | .json => i.toJson.pretty
  | .yaml => Yaml.document i.toJson
  | .summary => summary i

end Report

end CloudInventory
