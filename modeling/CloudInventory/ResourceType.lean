import CloudInventory.Definition

/-! The types of resources that are enumerated, and the definition of each. -/

namespace CloudInventory

inductive ResourceType where
  | computeInstance
  | computeDisk
  | computeNetwork
  | computeFirewall
  | storageBucket
  | storageBucketNotification
  | dnsManagedZone
  | dnsRecordSet
  | serviceAccount
  | serviceAccountKey
deriving DecidableEq, Repr

namespace ResourceType

def name : ResourceType → String
  | .computeInstance => "google_compute_instance"
  | .computeDisk => "google_compute_disk"
  | .computeNetwork => "google_compute_network"
  | .computeFirewall => "google_compute_firewall"
  | .storageBucket => "google_storage_bucket"
  | .storageBucketNotification => "google_storage_bucket_notification"
  | .dnsManagedZone => "google_dns_managed_zone"
  | .dnsRecordSet => "google_dns_record_set"
  | .serviceAccount => "google_service_account"
  | .serviceAccountKey => "google_service_account_key"

/-- In the order in which a scan enumerates them. -/
def all : List ResourceType :=
  [.computeInstance, .computeDisk, .computeNetwork, .computeFirewall, .storageBucket,
    .storageBucketNotification, .dnsManagedZone, .dnsRecordSet, .serviceAccount,
    .serviceAccountKey]

def ofName? (name : String) : Option ResourceType := all.find? fun t => t.name == name

def isKnown (name : String) : Bool := (ofName? name).isSome

def definition : ResourceType → Definition
  | .computeInstance =>
    { displayName := "VM Instances"
      service := .compute
      listPath := "projects/\x7bproject\x7d/aggregated/instances"
      aggregated := true
      responsePath := "items"
      idField := "name"
      attributes := [("zone", "zone")]
      readPath := "projects/\x7bproject\x7d/zones/\x7bzone\x7d/instances/\x7bid\x7d" }
  | .computeDisk =>
    { displayName := "Persistent Disks"
      service := .compute
      listPath := "projects/\x7bproject\x7d/aggregated/disks"
      aggregated := true
      responsePath := "items"
      idField := "name"
      attributes := [("zone", "zone")]
      readPath := "projects/\x7bproject\x7d/zones/\x7bzone\x7d/disks/\x7bid\x7d" }
  | .computeNetwork =>
    { displayName := "VPC Networks"
      service := .compute
      listPath := "projects/\x7bproject\x7d/global/networks"
      responsePath := "items"
      idField := "name"
      readPath := "projects/\x7bproject\x7d/global/networks/\x7bid\x7d" }
  | .computeFirewall =>
    { displayName := "Firewall Rules"
      service := .compute
      listPath := "projects/\x7bproject\x7d/global/firewalls"
      responsePath := "items"
      idField := "name"
      readPath := "projects/\x7bproject\x7d/global/firewalls/\x7bid\x7d" }
  | .storageBucket =>
    { displayName := "Storage Buckets"
      service := .storage
      listPath := "b"
      listParams := [("project", "\x7bproject\x7d")]
      responsePath := "items"
      idField := "name"
      readPath := "b/\x7bid\x7d" }
  | .storageBucketNotification =>
    { displayName := "Bucket Notifications"
      service := .storage
      listPath := "b"
      listParams := [("project", "\x7bproject\x7d")]
      responsePath := "items"
      idField := "name"
      readPath := "b/\x7bid\x7d/notificationConfigs"
      forbiddenRead := .fail
      requires := some "google_storage_bucket" }
  | .dnsManagedZone =>
    { displayName := "DNS Zones"
      service := .dns
      listPath := "projects/\x7bproject\x7d/managedZones"
      responsePath := "managedZones"
      idField := "name"
      readPath := "projects/\x7bproject\x7d/managedZones/\x7bid\x7d" }
  | .dnsRecordSet =>
    { displayName := "DNS Record Sets"
      service := .dns
      listPath := "projects/\x7bproject\x7d/managedZones/\x7bmanagedZone\x7d/rrsets"
      responsePath := "rrsets"
      idField := "name"
      attributes := [("name", "name"), ("type", "type")]
      readPath :=
        "projects/\x7bproject\x7d/managedZones/\x7bmanagedZone\x7d/rrsets/\x7bname\x7d/\x7btype\x7d"
      requires := some "google_dns_managed_zone" }
  | .serviceAccount =>
    { displayName := "Service Accounts"
      service := .iam
      listPath := "projects/\x7bproject\x7d/serviceAccounts"
      responsePath := "accounts"
      idField := "email"
      readPath := "projects/\x7bproject\x7d/serviceAccounts/\x7bid\x7d" }
  | .serviceAccountKey =>
    { displayName := "Service Account Keys"
      service := .iam
      listPath := "projects/\x7bproject\x7d/serviceAccounts/\x7bserviceAccount\x7d/keys"
      listParams := [("keyTypes", "USER_MANAGED")]
      paged := false
      responsePath := "keys"
      idField := "name"
      readPath := "projects/\x7bproject\x7d/serviceAccounts/\x7bserviceAccount\x7d/keys/\x7bid\x7d"
      requires := some "google_service_account" }

/-- The definition registered under a name. -/
def definitionOf (name : String) : Except Error Definition :=
  match ofName? name with
  | some t => .ok t.definition
  | none => .error (.unknownType name)

/-- The names of all types, in byte order. -/
def sortedNames : List String := (all.map name).mergeSort

end ResourceType

end CloudInventory
