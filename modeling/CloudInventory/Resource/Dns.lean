import CloudInventory.Json.Shape
import CloudInventory.Text.Lowercase

/-! Managed zones and their record sets. Names of record sets repeat across zones and types, so
their identifier is made of all three. -/

namespace CloudInventory

structure DnsManagedZone where
  id : String
  name : String
  dnsName : Option String
  description : Option String
  visibility : Option String
  nameServers : List String
deriving DecidableEq, Repr

namespace DnsManagedZone

@[reducible] def fields : Fields :=
  .cons "id" .text .required <|
  .cons "name" .text .required <|
  .cons "dnsName" .text .optional <|
  .cons "description" .text .optional <|
  .cons "visibility" .text .optional <|
  .cons "nameServers" (.list .text) .defaulted <|
  .nil

def ofFields : fields.Carrier → DnsManagedZone
  | (id, name, dnsName, description, visibility, nameServers, ()) =>
    { id, name, dnsName, description, visibility
      nameServers := nameServers.getD [] }

def entries (r : DnsManagedZone) : List (String × Json) :=
  [("id", .string r.id),
    ("name", .string r.name),
    ("dnsName", .ofOption .string r.dnsName),
    ("description", .ofOption .string r.description),
    ("visibility", .ofOption .string r.visibility),
    ("nameServers", .strings r.nameServers)]

end DnsManagedZone

structure DnsRecordSet where
  id : String
  managedZone : String
  name : String
  recordType : String
  ttl : Option UInt32
  rrdatas : List String
deriving DecidableEq, Repr

namespace DnsRecordSet

@[reducible] def fields : Fields :=
  .cons "id" .text .required <|
  .cons "managedZone" .text .required <|
  .cons "name" .text .required <|
  .cons "type" .text .required <|
  .cons "ttl" .word32 .optional <|
  .cons "rrdatas" (.list .text) .defaulted <|
  .nil

def ofFields : fields.Carrier → DnsRecordSet
  | (id, managedZone, name, recordType, ttl, rrdatas, ()) =>
    { id, managedZone, name, recordType, ttl
      rrdatas := rrdatas.getD [] }

def entries (r : DnsRecordSet) : List (String × Json) :=
  [("id", .string r.id),
    ("managedZone", .string r.managedZone),
    ("name", .string r.name),
    ("type", .string r.recordType),
    ("ttl", .ofOption (fun n => .nat n.toNat) r.ttl),
    ("rrdatas", .strings r.rrdatas)]

end DnsRecordSet

/-- The name without its trailing dots, in lower case. -/
def recordName (name : List Char) : List Char :=
  Text.lowercase ((name.reverse.dropWhile (· == '.')).reverse)

/-- Zone, name and type, the name in its one written form. -/
def recordSetId (zone name type : String) : String :=
  String.ofList (zone.toList ++ '_' :: (recordName name.toList ++ '_' :: type.toList))

end CloudInventory
