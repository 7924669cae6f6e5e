/-! The services that hold resources, and the addresses of their calls. -/

namespace CloudInventory

inductive Service where
  | compute
  | storage
  | dns
  | iam
deriving DecidableEq, Repr

namespace Service

def all : List Service := [.compute, .storage, .dns, .iam]

def name : Service → String
  | .compute => "compute"
  | .storage => "storage"
  | .dns => "dns"
  | .iam => "iam"

def ofName? (name : String) : Option Service := all.find? fun s => s.name == name

def host : Service → String
  | .compute => "https://compute.googleapis.com"
  | .storage => "https://storage.googleapis.com"
  | .dns => "https://dns.googleapis.com"
  | .iam => "https://iam.googleapis.com"

/-- The versioned path below which a service's calls stand. -/
def basePath : Service → String
  | .compute => "compute/v1"
  | .storage => "storage/v1"
  | .dns => "dns/v1"
  | .iam => "v1"

/-- The address of a path; a root given by the user stands in for every service's host. -/
def url (root : Option String) (service : Service) (path : String) : String :=
  let root := (root.getD service.host).toList
  let root := (root.reverse.dropWhile (· == '/')).reverse
  let path := path.toList.dropWhile (· == '/')
  String.ofList (root ++ '/' :: (service.basePath.toList ++ '/' :: path))

end Service

end CloudInventory
