import CloudInventory.Definition
import CloudInventory.Page

/-! The items of a list call's answer. They stand at a path in it, or, where the answer is keyed by
zone or region, in every list of every scope. -/

namespace CloudInventory.Items

/-- The list at a path of keys; none where there is no such list. -/
def below (v : Json) : List String → List Json
  | [] => v.items?.getD []
  | key :: keys =>
    match v.field? key with
    | some w => below w keys
    | none => []

/-- The keys of a dotted path, of which the empty one has none. -/
def keysOf (path : String) : List String :=
  if path.isEmpty then [] else (Text.splitAt '.' path.toList).map String.ofList

def atPath (path : String) (v : Json) : List Json := below v (keysOf path)

/-- The items of one scope; one without resources carries a warning. -/
def ofScope (scope : Json) : List Json :=
  ((scope.entries?.getD []).filter fun e => e.1 != "warning").flatMap fun e => e.2.items?.getD []

def ofScopes (v : Json) : List Json :=
  (((v.field? "items").bind Json.entries?).getD []).flatMap fun e => ofScope e.2

def nextToken? (v : Json) : Option String := (v.field? "nextPageToken").bind Json.string?

def page (request : ListRequest) (v : Json) : Page Json :=
  let items := if request.aggregated then ofScopes v else atPath request.responsePath v
  Page.ofToken items (nextToken? v)

end CloudInventory.Items
