import CloudInventory.ApiRoot
import CloudInventory.Client.Items
import CloudInventory.Client.Response
import CloudInventory.Scan.Basic

/-! The client of the services: the addresses it asks, and what it makes of their answers. -/

namespace CloudInventory

structure Client where
  project : String
  /-- Stands in for the hosts of all services. -/
  apiRoot : Option String
  /-- What every request carries, or why it cannot be had. -/
  token : Except Error String
  /-- The final answer to a request for an address with a token. -/
  answer : (url token : String) → Except TransportFault Response

namespace Client

def rootError (root : String) : ApiRoot.Fault → Error
  | .malformed flaw => .config s!"invalid API root '{root}': {flaw.message}"
  | .otherScheme => .config s!"API root '{root}' is not an http(s) URL"

def new (project : String) (apiRoot : Option String) (token : Except Error String)
    (answer : (url token : String) → Except TransportFault Response) : Except Error Client := do
  ApiRoot.check rootError apiRoot
  return ⟨project, apiRoot, token, answer⟩

def url (c : Client) (service : Service) (path : String) : String := service.url c.apiRoot path

def get (c : Client) (url : String) : Except Error Json := do
  let token ← c.token
  match c.answer url token with
  | .error fault => .error (.transport fault)
  | .ok r => r.content url

/-! ### Listings -/

def queryPart (param : String × String) : List Char :=
  param.1.toList ++ '=' :: Text.percentEncode param.2.toList

/-- An address with parameters, behind those that it has already. -/
def withQuery (url : String) (params : List (String × String)) : String :=
  match params with
  | [] => url
  | param :: rest =>
    let joint := if url.toList.contains '?' then '&' else '?'
    let more := rest.flatMap fun p => '&' :: queryPart p
    String.ofList (url.toList ++ joint :: (queryPart param ++ more))

def pageParams (request : ListRequest) (cursor : Option String) : List (String × String) :=
  request.params ++ (cursor.map fun token => ("pageToken", token)).toList

def pageUrl (c : Client) (request : ListRequest) (cursor : Option String) : String :=
  withQuery (c.url request.service request.path) (pageParams request cursor)

def listPage (c : Client) (request : ListRequest) (cursor : Option String) :
    Except Error (Page Json) :=
  (c.get (c.pageUrl request cursor)).map (Items.page request)

/-! ### States -/

/-- The identifier from the listing takes the place of the service's own; an attribute only fills
a gap. -/
def identified (args : ReadArgs) (s : State) : State :=
  args.attributes.foldl (fun s a => s.setDefault a.1 (.text a.2)) (s.set "id" (.text args.id))

def read (c : Client) (args : ReadArgs) : Except Error State := do
  let d ← ResourceType.definitionOf args.type
  let v ← c.get (c.url d.service (d.readPathOf c.project args))
  return identified args (State.ofJson v)

def source (c : Client) : Source := ⟨c.listPage, c.read⟩

end Client

end CloudInventory
