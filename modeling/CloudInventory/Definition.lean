import CloudInventory.Alert
import CloudInventory.Json.Shape
import CloudInventory.Service
import CloudInventory.Template

/-! Definitions: how the resources of a type are listed, told apart and read. -/

namespace CloudInventory

structure ListRequest where
  service : Service
  path : String
  params : Dict String
  /-- The answer is keyed by zone or region and has to be flattened. -/
  aggregated : Bool
  /-- The dotted path of the items in the answer. -/
  responsePath : String
deriving DecidableEq, Repr

structure ReadArgs where
  type : String
  id : String
  attributes : Dict String
deriving DecidableEq, Repr

structure Definition where
  displayName : String
  service : Service
  listPath : String
  listParams : Dict String := []
  aggregated : Bool := false
  paged : Bool := true
  responsePath : String
  /-- The field of a listed item whose last path segment identifies the resource. -/
  idField : String
  /-- The fields of a listed item that are needed to read the resource, by attribute. -/
  attributes : Dict String := []
  readPath : String
  forbiddenRead : ForbiddenRead := .ignoreType
  /-- The type through whose listing this one is enumerated. -/
  requires : Option String := none
deriving DecidableEq, Repr

/-- The last segment of a resource's address. -/
def shortName (url : String) : String := String.ofList (Text.afterLast '/' url.toList)

def itemField (item : Json) (field type : String) : Except Error String :=
  match (item.field? field).bind Json.string? with
  | some s => .ok s
  | none => .error (.listing type s!"listed item has no string field '{field}'")

namespace Definition

def listRequest (d : Definition) (project : String) (vars : Template.Variables) : ListRequest :=
  let vars := ("project", project) :: vars
  { service := d.service
    path := Template.expandPath d.listPath vars
    params := d.listParams.mapValues (Template.expandParam · vars)
    aggregated := d.aggregated
    responsePath := d.responsePath }

def itemAttributes (type : String) (item : Json) : Dict String → Except Error (Dict String)
  | [] => .ok []
  | (attr, field) :: rest => do
    let value ← itemField item field type
    let others ← itemAttributes type item rest
    return (attr, shortName value) :: others

/-- Identifies a listed item, with the attributes that its read needs. -/
def readArgs (d : Definition) (type : String) (item : Json) : Except Error ReadArgs := do
  let id ← itemField item d.idField type
  let attributes ← itemAttributes type item d.attributes
  return ⟨type, shortName id, attributes⟩

def readVariables (project : String) (args : ReadArgs) : Template.Variables :=
  ("project", project) :: ("id", args.id) :: args.attributes

def readPathOf (d : Definition) (project : String) (args : ReadArgs) : String :=
  Template.expandPath d.readPath (readVariables project args)

/-! ### Definitions as data -/

def forbiddenReads : List ForbiddenRead := [.ignoreType, .fail]

@[reducible] def serviceShape : Shape := .choice ["compute", "storage", "dns", "iam"]

@[reducible] def forbiddenReadShape : Shape := .choice ["ignore_type", "fail"]

@[reducible] def fields : Fields :=
  .cons "display_name" .text .required <|
  .cons "service" serviceShape .required <|
  .cons "list_path" .text .required <|
  .cons "list_params" (.dict .text) .defaulted <|
  .cons "aggregated" .flag .defaulted <|
  .cons "paged" .flag .defaulted <|
  .cons "response_path" .text .required <|
  .cons "id_field" .text .required <|
  .cons "attributes" (.dict .text) .defaulted <|
  .cons "read_path" .text .required <|
  .cons "forbidden_read" forbiddenReadShape .defaulted <|
  .cons "requires" .text .omissible <|
  .nil

@[reducible] def shape : Shape := .record "ResourceDef" fields

def ofFields : fields.Carrier → Definition
  | (displayName, service, listPath, listParams, aggregated, paged, responsePath, idField,
      attributes, readPath, forbiddenRead, requires, ()) =>
    { displayName, listPath, responsePath, idField, readPath, requires
      service := Service.all.get service
      listParams := listParams.getD []
      aggregated := aggregated.getD false
      paged := paged.getD true
      attributes := attributes.getD []
      forbiddenRead := (forbiddenRead.map forbiddenReads.get).getD .ignoreType }

def ofJson (v : Json) : Except Error Definition :=
  match shape.read v with
  | .ok c => .ok (ofFields c)
  | .error misfit => .error (.json misfit.message)

end Definition

end CloudInventory
