import CloudInventory.Text.Blank

/-! What can go wrong while resources are enumerated. Only the status of a failed call decides
whether it was refused, never a text; what a user is shown of an error says nothing of addresses
or of a service's own words. -/

namespace CloudInventory

/-- Why a request never had an answer. -/
structure TransportFault where
  /-- The status of an answer that was itself taken for a fault. -/
  status? : Option Nat
  reason : String
deriving DecidableEq, Repr, Inhabited

inductive Error where
  /-- The service answered with a status other than success. -/
  | api (status : Nat) (url message : String)
  | transport (fault : TransportFault)
  | auth (reason : String)
  | cancelled
  /-- A state does not have the shape of its type. -/
  | deserialize (resourceType reason : String)
  /-- A listed item does not identify a resource. -/
  | listing (resourceType reason : String)
  /-- The listing broke the paging protocol. -/
  | pagination (reason : String)
  | unknownType (resourceType : String)
  /-- The body of a read came to no end of its own. -/
  | task (reason : String)
  | json (reason : String)
  | config (reason : String)
deriving DecidableEq, Repr, Inhabited

namespace Error

def forbiddenStatus : Nat := 403

def message : Error → String
  | .api status url message => s!"request to {url} failed with status {status}: {message}"
  | .transport fault => s!"transport error: {fault.reason}"
  | .auth reason => s!"authentication error: {reason}"
  | .cancelled => "scan cancelled"
  | .deserialize type reason => s!"cannot deserialize {type}: {reason}"
  | .listing type reason => s!"malformed listing for {type}: {reason}"
  | .pagination reason => s!"pagination error: {reason}"
  | .unknownType type => s!"unknown resource type: {type}"
  | .task reason => s!"read task failed: {reason}"
  | .json reason => s!"invalid response body: {reason}"
  | .config reason => s!"configuration error: {reason}"

def status? : Error → Option Nat
  | .api status _ _ => some status
  | .transport fault => fault.status?
  | _ => none

def isForbidden (e : Error) : Bool := e.status? == some forbiddenStatus

def isCancelled (e : Error) : Bool := e == .cancelled

def requestFailed : String := "Request failed. Check your network connection and try again."

def describeStatus : Nat → String
  | 403 => "Permission denied. Check your GCP IAM permissions."
  | 401 => "Authentication failed. Run 'gcloud auth application-default login'."
  | 404 => "Resource not found."
  | 429 => "Rate limit exceeded. Please try again later."
  | 400 => "Invalid request. Check your parameters."
  | 500 | 502 | 503 => "GCP service temporarily unavailable. Please try again."
  | _ => requestFailed

def descriptionLimit : Nat := 120

/-- The printable part of a text, cut to the limit; an ellipsis tells that something is left
out. -/
def abridged (text : String) : String :=
  let shown := String.ofList ((text.toList.filter Text.isPrintableAscii).take descriptionLimit)
  if shown.utf8ByteSize < text.utf8ByteSize then shown ++ "..." else shown

def describe (e : Error) : String :=
  match e.status?, e with
  | some status, _ => describeStatus status
  | none, .transport _ => requestFailed
  | none, e => abridged e.message

end Error

end CloudInventory
