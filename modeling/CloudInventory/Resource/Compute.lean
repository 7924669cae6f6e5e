import CloudInventory.Json.Shape

/-! Machines, disks, networks and firewall rules. -/

namespace CloudInventory

structure NetworkInterface where
  network : Option String
  subnetwork : Option String
  networkIp : Option String
deriving DecidableEq, Repr

namespace NetworkInterface

@[reducible] def fields : Fields :=
  .cons "network" .text .optional <|
  .cons "subnetwork" .text .optional <|
  .cons "networkIP" .text .optional <|
  .nil

def ofFields : fields.Carrier → NetworkInterface
  | (network, subnetwork, networkIp, ()) => { network, subnetwork, networkIp }

def toJson (i : NetworkInterface) : Json :=
  .object [
    ("network", .ofOption .string i.network),
    ("subnetwork", .ofOption .string i.subnetwork),
    ("networkIP", .ofOption .string i.networkIp)]

end NetworkInterface

structure ComputeInstance where
  id : String
  name : String
  zone : Option String
  machineType : Option String
  status : Option String
  labels : Dict String
  networkInterfaces : List NetworkInterface
  deletionProtection : Bool
deriving DecidableEq, Repr

namespace ComputeInstance

@[reducible] def fields : Fields :=
  .cons "id" .text .required <|
  .cons "name" .text .required <|
  .cons "zone" .text .optional <|
  .cons "machineType" .text .optional <|
  .cons "status" .text .optional <|
  .cons "labels" (.dict .text) .defaulted <|
  .cons "networkInterfaces" (.list (.record "NetworkInterface" NetworkInterface.fields)) .defaulted <|
  .cons "deletionProtection" .flag .defaulted <|
  .nil

def ofFields : fields.Carrier → ComputeInstance
  | (id, name, zone, machineType, status, labels, networkInterfaces, deletionProtection, ()) =>
    { id, name, zone, machineType, status
      labels := labels.getD []
      networkInterfaces := (networkInterfaces.getD []).map NetworkInterface.ofFields
      deletionProtection := deletionProtection.getD false }

def entries (r : ComputeInstance) : List (String × Json) :=
  [("id", .string r.id),
    ("name", .string r.name),
    ("zone", .ofOption .string r.zone),
    ("machineType", .ofOption .string r.machineType),
    ("status", .ofOption .string r.status),
    ("labels", .stringDict r.labels),
    ("networkInterfaces", .array (r.networkInterfaces.map NetworkInterface.toJson)),
    ("deletionProtection", .bool r.deletionProtection)]

end ComputeInstance

structure ComputeDisk where
  id : String
  name : String
  zone : Option String
  /-- The service writes this number as text. -/
  sizeGb : Option String
  diskType : Option String
  status : Option String
  users : List String
  labels : Dict String
deriving DecidableEq, Repr

namespace ComputeDisk

@[reducible] def fields : Fields :=
  .cons "id" .text .required <|
  .cons "name" .text .required <|
  .cons "zone" .text .optional <|
  .cons "sizeGb" .text .optional <|
  .cons "type" .text .optional <|
  .cons "status" .text .optional <|
  .cons "users" (.list .text) .defaulted <|
  .cons "labels" (.dict .text) .defaulted <|
  .nil

def ofFields : fields.Carrier → ComputeDisk
  | (id, name, zone, sizeGb, diskType, status, users, labels, ()) =>
    { id, name, zone, sizeGb, diskType, status
      users := users.getD []
      labels := labels.getD [] }

def entries (r : ComputeDisk) : List (String × Json) :=
  [("id", .string r.id),
    ("name", .string r.name),
    ("zone", .ofOption .string r.zone),
    ("sizeGb", .ofOption .string r.sizeGb),
    ("type", .ofOption .string r.diskType),
    ("status", .ofOption .string r.status),
    ("users", .strings r.users),
    ("labels", .stringDict r.labels)]

end ComputeDisk

structure RoutingConfig where
  routingMode : Option String
deriving DecidableEq, Repr

namespace RoutingConfig

@[reducible] def fields : Fields := .cons "routingMode" .text .optional .nil

def ofFields : fields.Carrier → RoutingConfig
  | (routingMode, ()) => { routingMode }

def toJson (c : RoutingConfig) : Json :=
  .object [("routingMode", .ofOption .string c.routingMode)]

end RoutingConfig

structure ComputeNetwork where
  id : String
  name : String
  autoCreateSubnetworks : Option Bool
  routingConfig : Option RoutingConfig
  subnetworks : List String
  mtu : Option UInt32
deriving DecidableEq, Repr

namespace ComputeNetwork

@[reducible] def fields : Fields :=
  .cons "id" .text .required <|
  .cons "name" .text .required <|
  .cons "autoCreateSubnetworks" .flag .optional <|
  .cons "routingConfig" (.record "RoutingConfig" RoutingConfig.fields) .optional <|
  .cons "subnetworks" (.list .text) .defaulted <|
  .cons "mtu" .word32 .optional <|
  .nil

def ofFields : fields.Carrier → ComputeNetwork
  | (id, name, autoCreateSubnetworks, routingConfig, subnetworks, mtu, ()) =>
    { id, name, autoCreateSubnetworks, mtu
      routingConfig := routingConfig.map RoutingConfig.ofFields
      subnetworks := subnetworks.getD [] }

def entries (r : ComputeNetwork) : List (String × Json) :=
  [("id", .string r.id),
    ("name", .string r.name),
    ("autoCreateSubnetworks", .ofOption .bool r.autoCreateSubnetworks),
    ("routingConfig", .ofOption RoutingConfig.toJson r.routingConfig),
    ("subnetworks", .strings r.subnetworks),
    ("mtu", .ofOption (fun n => .nat n.toNat) r.mtu)]

end ComputeNetwork

structure FirewallRule where
  ipProtocol : String
  ports : List String
deriving DecidableEq, Repr

namespace FirewallRule

@[reducible] def fields : Fields :=
  .cons "IPProtocol" .text .required <|
  .cons "ports" (.list .text) .defaulted <|
  .nil

def ofFields : fields.Carrier → FirewallRule
  | (ipProtocol, ports, ()) => { ipProtocol, ports := ports.getD [] }

def toJson (r : FirewallRule) : Json :=
  .object [("IPProtocol", .string r.ipProtocol), ("ports", .strings r.ports)]

end FirewallRule

structure ComputeFirewall where
  id : String
  name : String
  network : Option String
  direction : Option String
  priority : Option UInt32
  sourceRanges : List String
  targetTags : List String
  allowed : List FirewallRule
  denied : List FirewallRule
  disabled : Bool
deriving DecidableEq, Repr

namespace ComputeFirewall

@[reducible] def ruleShape : Shape := .record "FirewallRule" FirewallRule.fields

@[reducible] def fields : Fields :=
  .cons "id" .text .required <|
  .cons "name" .text .required <|
  .cons "network" .text .optional <|
  .cons "direction" .text .optional <|
  .cons "priority" .word32 .optional <|
  .cons "sourceRanges" (.list .text) .defaulted <|
  .cons "targetTags" (.list .text) .defaulted <|
  .cons "allowed" (.list ruleShape) .defaulted <|
  .cons "denied" (.list ruleShape) .defaulted <|
  .cons "disabled" .flag .defaulted <|
  .nil

def ofFields : fields.Carrier → ComputeFirewall
  | (id, name, network, direction, priority, sourceRanges, targetTags, allowed, denied, disabled,
      ()) =>
    { id, name, network, direction, priority
      sourceRanges := sourceRanges.getD []
      targetTags := targetTags.getD []
      allowed := (allowed.getD []).map FirewallRule.ofFields
      denied := (denied.getD []).map FirewallRule.ofFields
      disabled := disabled.getD false }

def entries (r : ComputeFirewall) : List (String × Json) :=
  [("id", .string r.id),
    ("name", .string r.name),
    ("network", .ofOption .string r.network),
    ("direction", .ofOption .string r.direction),
    ("priority", .ofOption (fun n => .nat n.toNat) r.priority),
    ("sourceRanges", .strings r.sourceRanges),
    ("targetTags", .strings r.targetTags),
    ("allowed", .array (r.allowed.map FirewallRule.toJson)),
    ("denied", .array (r.denied.map FirewallRule.toJson)),
    ("disabled", .bool r.disabled)]

end ComputeFirewall

end CloudInventory
