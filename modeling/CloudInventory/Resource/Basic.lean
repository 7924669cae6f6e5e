import CloudInventory.Resource.Compute
import CloudInventory.Resource.Dns
import CloudInventory.Resource.Iam
import CloudInventory.Resource.Storage
import CloudInventory.ResourceType
import CloudInventory.State

/-! Resources of every type, and their reading from states. A list of states is read whole or
not at all; the first state that does not fit is named by its place. -/

namespace CloudInventory

inductive Resource where
  | computeInstance (r : ComputeInstance)
  | computeDisk (r : ComputeDisk)
  | computeNetwork (r : ComputeNetwork)
  | computeFirewall (r : ComputeFirewall)
  | storageBucket (r : StorageBucket)
  | storageBucketNotification (r : StorageBucketNotification)
  | dnsManagedZone (r : DnsManagedZone)
  | dnsRecordSet (r : DnsRecordSet)
  | serviceAccount (r : ServiceAccount)
  | serviceAccountKey (r : ServiceAccountKey)
deriving DecidableEq, Repr

namespace Resource

def type : Resource → ResourceType
  | .computeInstance _ => .computeInstance
  | .computeDisk _ => .computeDisk
  | .computeNetwork _ => .computeNetwork
  | .computeFirewall _ => .computeFirewall
  | .storageBucket _ => .storageBucket
  | .storageBucketNotification _ => .storageBucketNotification
  | .dnsManagedZone _ => .dnsManagedZone
  | .dnsRecordSet _ => .dnsRecordSet
  | .serviceAccount _ => .serviceAccount
  | .serviceAccountKey _ => .serviceAccountKey

def id : Resource → String
  | .computeInstance r => r.id
  | .computeDisk r => r.id
  | .computeNetwork r => r.id
  | .computeFirewall r => r.id
  | .storageBucket r => r.id
  | .storageBucketNotification r => r.id
  | .dnsManagedZone r => r.id
  | .dnsRecordSet r => r.id
  | .serviceAccount r => r.id
  | .serviceAccountKey r => r.id

/-- Whether there is anything to take into the inventory. -/
def isConfigured : Resource → Bool
  | .storageBucketNotification r => !r.notifications.isEmpty
  | _ => true

def entries : Resource → List (String × Json)
  | .computeInstance r => r.entries
  | .computeDisk r => r.entries
  | .computeNetwork r => r.entries
  | .computeFirewall r => r.entries
  | .storageBucket r => r.entries
  | .storageBucketNotification r => r.entries
  | .dnsManagedZone r => r.entries
  | .dnsRecordSet r => r.entries
  | .serviceAccount r => r.entries
  | .serviceAccountKey r => r.entries

def tagKey : String := "resourceType"

/-- The fields in their order, after the type. -/
def toJson (r : Resource) : Json := .object ((tagKey, .string r.type.name) :: r.entries)

end Resource

namespace ResourceType

@[reducible] def fields : ResourceType → Fields
  | .computeInstance => ComputeInstance.fields
  | .computeDisk => ComputeDisk.fields
  | .computeNetwork => ComputeNetwork.fields
  | .computeFirewall => ComputeFirewall.fields
  | .storageBucket => StorageBucket.fields
  | .storageBucketNotification => StorageBucketNotification.fields
  | .dnsManagedZone => DnsManagedZone.fields
  | .dnsRecordSet => DnsRecordSet.fields
  | .serviceAccount => ServiceAccount.fields
  | .serviceAccountKey => ServiceAccountKey.fields

def ofFields : (t : ResourceType) → t.fields.Carrier → Resource
  | .computeInstance, c => .computeInstance (.ofFields c)
  | .computeDisk, c => .computeDisk (.ofFields c)
  | .computeNetwork, c => .computeNetwork (.ofFields c)
  | .computeFirewall, c => .computeFirewall (.ofFields c)
  | .storageBucket, c => .storageBucket (.ofFields c)
  | .storageBucketNotification, c => .storageBucketNotification (.ofFields c)
  | .dnsManagedZone, c => .dnsManagedZone (.ofFields c)
  | .dnsRecordSet, c => .dnsRecordSet (.ofFields c)
  | .serviceAccount, c => .serviceAccount (.ofFields c)
  | .serviceAccountKey, c => .serviceAccountKey (.ofFields c)

def readMap (t : ResourceType) (entries : List (String × Json)) : Except Misfit Resource :=
  match t.fields.readEntries entries with
  | .ok c => .ok (t.ofFields c)
  | .error e => .error e.misfit

/-- The resource that a state describes, the state being the one at `place` of its list. -/
def readState (t : ResourceType) (place : Nat) (s : State) : Except Error Resource :=
  match s with
  | .map entries =>
    match t.readMap (State.toEntries entries) with
    | .ok r => .ok r
    | .error misfit => .error (.deserialize t.name s!"value #{place}: {misfit.message}")
  | s => .error (.deserialize t.name s!"value #{place} is a {s.kind}, expected a map")

def readStatesFrom (t : ResourceType) : Nat → List State → Except Error (List Resource)
  | _, [] => .ok []
  | place, s :: ss =>
    match t.readState place s with
    | .error e => .error e
    | .ok r => (t.readStatesFrom (place + 1) ss).map (r :: ·)

def readStates (t : ResourceType) (ss : List State) : Except Error (List Resource) :=
  t.readStatesFrom 0 ss

end ResourceType

end CloudInventory
