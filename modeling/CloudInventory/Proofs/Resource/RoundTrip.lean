import CloudInventory.Proofs.Resource.Written
import CloudInventory.Proofs.State
import CloudInventory.Resource.Basic

/-! Resources written as JSON and read again. What a resource writes holds its data field by
field, under the key that its type reads it from; only the notifications of a bucket are written
under another key than the one they are read from. -/

namespace CloudInventory

open Presence.Holds (required defaulted optional optionalMap)
open Shape.Holds (text flag word32 strings stringDict)

namespace NetworkInterface

def carrier (i : NetworkInterface) : fields.Carrier := (i.network, i.subnetwork, i.networkIp, ())

theorem holds (i : NetworkInterface) :
    Shape.Holds (.record "NetworkInterface" fields) i.toJson i.carrier :=
  .record ⟨rfl, optional text _, rfl, optional text _, rfl, optional text _, trivial⟩ (by decide)

end NetworkInterface

namespace RoutingConfig

def carrier (c : RoutingConfig) : fields.Carrier := (c.routingMode, ())

theorem holds (c : RoutingConfig) :
    Shape.Holds (.record "RoutingConfig" fields) c.toJson c.carrier :=
  .record ⟨rfl, optional text _, trivial⟩ (by decide)

end RoutingConfig

namespace FirewallRule

def carrier (r : FirewallRule) : fields.Carrier := (r.ipProtocol, some r.ports, ())

theorem holds (r : FirewallRule) : Shape.Holds (.record "FirewallRule" fields) r.toJson r.carrier :=
  .record ⟨rfl, required (text _), rfl, defaulted (strings _), trivial⟩ (by decide)

end FirewallRule

namespace Versioning

def carrier (v : Versioning) : fields.Carrier := (some v.enabled, ())

theorem holds (v : Versioning) : Shape.Holds (.record "Versioning" fields) v.toJson v.carrier :=
  .record ⟨rfl, defaulted (flag _), trivial⟩ (by decide)

end Versioning

namespace NotificationConfig

def carrier (c : NotificationConfig) : fields.Carrier :=
  (c.id, c.topic, c.payloadFormat, some c.eventTypes, c.objectNamePrefix, some c.customAttributes,
    ())

theorem holds {c : NotificationConfig} (h : c.customAttributes.Ascending) :
    Shape.Holds (.record "NotificationConfig" fields) c.toJson c.carrier :=
  .record ⟨rfl, required (text _), rfl, required (text _), rfl, optional text _,
    rfl, defaulted (strings _), rfl, optional text _, rfl, defaulted (stringDict h), trivial⟩
    (by decide)

end NotificationConfig

namespace Resource

/-- The dictionaries among the data of a resource. -/
def dicts : Resource → List (Dict String)
  | .computeInstance r => [r.labels]
  | .computeDisk r => [r.labels]
  | .storageBucket r => [r.labels]
  | .storageBucketNotification r => r.notifications.map (·.customAttributes)
  | _ => []

/-- A dictionary has each key once, at its place. -/
def Ordered (r : Resource) : Prop := ∀ d ∈ r.dicts, d.Ascending

/-- The data of a resource, field by field. -/
def carrier : (r : Resource) → r.type.fields.Carrier
  | .computeInstance r =>
    (r.id, r.name, r.zone, r.machineType, r.status, some r.labels,
      some (r.networkInterfaces.map (·.carrier)), some r.deletionProtection, ())
  | .computeDisk r =>
    (r.id, r.name, r.zone, r.sizeGb, r.diskType, r.status, some r.users, some r.labels, ())
  | .computeNetwork r =>
    (r.id, r.name, r.autoCreateSubnetworks, r.routingConfig.map (·.carrier), some r.subnetworks,
      r.mtu, ())
  | .computeFirewall r =>
    (r.id, r.name, r.network, r.direction, r.priority, some r.sourceRanges, some r.targetTags,
      some (r.allowed.map (·.carrier)), some (r.denied.map (·.carrier)), some r.disabled, ())
  | .storageBucket r =>
    (r.id, r.name, r.location, r.storageClass, r.versioning.map (·.carrier), some r.labels, ())
  | .storageBucketNotification r => (r.id, some (r.notifications.map (·.carrier)), ())
  | .dnsManagedZone r =>
    (r.id, r.name, r.dnsName, r.description, r.visibility, some r.nameServers, ())
  | .dnsRecordSet r => (r.id, r.managedZone, r.name, r.recordType, r.ttl, some r.rrdatas, ())
  | .serviceAccount r =>
    (r.id, r.email, r.displayName, r.description, r.uniqueId, some r.disabled, ())
  | .serviceAccountKey r =>
    (r.id, r.name, r.serviceAccount, r.keyType, r.keyAlgorithm, r.keyOrigin, r.validAfterTime,
      r.validBeforeTime, some r.disabled, ())

theorem ofFields_carrier (r : Resource) : r.type.ofFields r.carrier = r := by
  cases r with
  | computeInstance r =>
    exact congrArg (fun l => computeInstance { r with networkInterfaces := l })
      (List.map_map.trans (List.map_id' _))
  | computeNetwork r =>
    exact congrArg (fun c => computeNetwork { r with routingConfig := c })
      ((Option.map_map _ _ _).trans Option.map_id')
  | computeFirewall r =>
    exact congrArg₂ (fun a d => computeFirewall { r with allowed := a, denied := d })
      (List.map_map.trans (List.map_id' _)) (List.map_map.trans (List.map_id' _))
  | storageBucket r =>
    exact congrArg (fun v => storageBucket { r with versioning := v })
      ((Option.map_map _ _ _).trans Option.map_id')
  | storageBucketNotification r =>
    exact congrArg (fun l => storageBucketNotification { r with notifications := l })
      (List.map_map.trans (List.map_id' _))
  | computeDisk | dnsManagedZone | dnsRecordSet | serviceAccount | serviceAccountKey => rfl

/-- The entries that a resource writes, under the keys that its type reads them from. -/
def fieldEntries : Resource → List (String × Json)
  | .storageBucketNotification r =>
    [("id", .string r.id), ("items", .array (r.notifications.map NotificationConfig.toJson))]
  | r => r.entries

theorem holds {r : Resource} (h : r.Ordered) : r.type.fields.Holds r.fieldEntries r.carrier := by
  cases r with
  | computeInstance r =>
    exact ⟨rfl, required (text _), rfl, required (text _), rfl, optional text _,
      rfl, optional text _, rfl, optional text _,
      rfl, defaulted (stringDict (h _ List.mem_cons_self)),
      rfl, defaulted (.list fun i _ => i.holds), rfl, defaulted (flag _), trivial⟩
  | computeDisk r =>
    exact ⟨rfl, required (text _), rfl, required (text _), rfl, optional text _,
      rfl, optional text _, rfl, optional text _, rfl, optional text _,
      rfl, defaulted (strings _), rfl, defaulted (stringDict (h _ List.mem_cons_self)), trivial⟩
  | computeNetwork r =>
    exact ⟨rfl, required (text _), rfl, required (text _), rfl, optional flag _,
      rfl, optionalMap RoutingConfig.holds _, rfl, defaulted (strings _),
      rfl, optional word32 _, trivial⟩
  | computeFirewall r =>
    exact ⟨rfl, required (text _), rfl, required (text _), rfl, optional text _,
      rfl, optional text _, rfl, optional word32 _, rfl, defaulted (strings _),
      rfl, defaulted (strings _), rfl, defaulted (.list fun r _ => r.holds),
      rfl, defaulted (.list fun r _ => r.holds), rfl, defaulted (flag _), trivial⟩
  | storageBucket r =>
    exact ⟨rfl, required (text _), rfl, required (text _), rfl, optional text _,
      rfl, optional text _, rfl, optionalMap Versioning.holds _,
      rfl, defaulted (stringDict (h _ List.mem_cons_self)), trivial⟩
  | storageBucketNotification r =>
    exact ⟨rfl, required (text _),
      rfl, defaulted (.list fun c hc => c.holds (h _ (List.mem_map_of_mem hc))), trivial⟩
  | dnsManagedZone r =>
    exact ⟨rfl, required (text _), rfl, required (text _), rfl, optional text _,
      rfl, optional text _, rfl, optional text _, rfl, defaulted (strings _), trivial⟩
  | dnsRecordSet r =>
    exact ⟨rfl, required (text _), rfl, required (text _), rfl, required (text _),
      rfl, required (text _), rfl, optional word32 _, rfl, defaulted (strings _), trivial⟩
  | serviceAccount r =>
    exact ⟨rfl, required (text _), rfl, required (text _), rfl, optional text _,
      rfl, optional text _, rfl, optional text _, rfl, defaulted (flag _), trivial⟩
  | serviceAccountKey r =>
    exact ⟨rfl, required (text _), rfl, required (text _), rfl, required (text _),
      rfl, optional text _, rfl, optional text _, rfl, optional text _, rfl, optional text _,
      rfl, optional text _, rfl, defaulted (flag _), trivial⟩

/-- The keys that resources of a type are written under. -/
def writtenKeys : ResourceType → List String
  | .storageBucketNotification => ["id", "notifications"]
  | t => t.fields.keys

theorem keys_entries (r : Resource) : r.entries.map (·.1) = writtenKeys r.type := by
  cases r <;> rfl

theorem writtenKeys_nodup (t : ResourceType) : (tagKey :: writtenKeys t).Nodup := by
  cases t <;> decide

/-- A written resource as a state. -/
def written (r : Resource) : State := .ofJson r.toJson.inKeyOrder

/-- The entries of a written resource, in key order, as those of a state. -/
def writtenEntries (r : Resource) : Dict State :=
  Dict.mapValues State.ofJson
    (Dict.ofList (Dict.mapValues Json.inKeyOrder ((tagKey, .string r.type.name) :: r.entries)))

theorem written_eq (r : Resource) : r.written = .map r.writtenEntries := by
  rw [written, toJson, Json.inKeyOrder_object, State.ofJson, State.ofEntries_eq]
  rfl

theorem find?_writtenEntries {r : Resource} {e : String × Json} (he : e ∈ r.entries) :
    Dict.find? e.1 r.writtenEntries = some (.ofJson e.2.inKeyOrder) := by
  have hkeys : (((tagKey, Json.string r.type.name) :: r.entries).map (·.1)).Nodup := by
    rw [List.map_cons, keys_entries]
    exact writtenKeys_nodup r.type
  rw [writtenEntries, Dict.find?_mapValues,
    Json.find?_inKeyOrder hkeys (List.mem_cons_of_mem _ he), Option.map_some]

theorem readState_of_find? {r : Resource} (h : r.Ordered) {entries : Dict State}
    (hfind : ∀ e ∈ r.fieldEntries, Dict.find? e.1 entries = some (.ofJson e.2.inKeyOrder))
    (place : Nat) : r.type.readState place (.map entries) = .ok r := by
  have hread : r.type.fields.readEntries (State.toEntries entries) = .ok r.carrier := by
    refine Fields.readEntries_of_holds (holds h) fun e he => ?_
    rw [State.toEntries_eq, Dict.find?_mapValues, hfind e he, Option.map_some, State.toJson_ofJson]
  rw [ResourceType.readState, ResourceType.readMap, hread]
  simp [ofFields_carrier]

theorem readState_written {r : Resource} (h : r.Ordered)
    (ht : r.type ≠ .storageBucketNotification) (place : Nat) :
    r.type.readState place r.written = .ok r := by
  have hentries : r.fieldEntries = r.entries := by
    cases r with
    | storageBucketNotification => exact absurd rfl ht
    | _ => rfl
  rw [written_eq]
  refine readState_of_find? h (fun e he => ?_) place
  exact find?_writtenEntries (hentries ▸ he)

end Resource

namespace State

/-- Moves what stands under one key of a map to another. -/
def rekey (old new : String) : State → State
  | .map entries =>
    match Dict.find? old entries with
    | some s => .map (Dict.insert new s (entries.filter (·.1 ≠ old)))
    | none => .map entries
  | s => s

end State

namespace Resource

theorem readState_rekeyed {r : Resource} (h : r.Ordered)
    (ht : r.type = .storageBucketNotification) (place : Nat) :
    r.type.readState place (r.written.rekey "notifications" "items") = .ok r := by
  obtain ⟨n, rfl⟩ : ∃ n, r = .storageBucketNotification n := by
    cases r with
    | storageBucketNotification n => exact ⟨n, rfl⟩
    | _ => cases ht
  have hid := find?_writtenEntries (r := .storageBucketNotification n)
    (e := ("id", .string n.id)) List.mem_cons_self
  have hitems := find?_writtenEntries (r := .storageBucketNotification n)
    (e := ("notifications", .array (n.notifications.map NotificationConfig.toJson)))
    (List.mem_cons_of_mem _ List.mem_cons_self)
  rw [written_eq, State.rekey, hitems]
  refine readState_of_find? h (fun e he => ?_) place
  rcases List.mem_pair.mp he with rfl | rfl
  · have hne : "items" ≠ "id" := by decide
    have hkept : "id" ≠ "notifications" := by decide
    rw [Dict.find?_insert_of_ne hne, Dict.find?_filter hkept, hid]
  · rw [Dict.find?_insert_self]

/-- A resource that is written and read again as its own type is the same; that of a bucket's
notifications, once these stand under the key that they are read from. So two resources of a type
that are written alike are one. -/
theorem readState_toJson (r : Resource) (h : r.Ordered) :
    (r.type ≠ .storageBucketNotification → ∀ place, r.type.readState place r.written = .ok r) ∧
      (r.type = .storageBucketNotification → ∀ place,
        r.type.readState place (r.written.rekey "notifications" "items") = .ok r) ∧
      ∀ r' : Resource, r'.Ordered → r'.type = r.type →
        r'.toJson.inKeyOrder = r.toJson.inKeyOrder → r' = r := by
  refine ⟨readState_written h, fun ht => readState_rekeyed h ht, fun r' h' ht hjson => ?_⟩
  have hsame : r'.written = r.written := congrArg State.ofJson hjson
  by_cases hn : r.type = .storageBucketNotification
  · have hread := readState_rekeyed h' (ht.trans hn) 0
    rw [ht, hsame, readState_rekeyed h hn 0] at hread
    exact (Except.ok.inj hread).symm
  · have hread := readState_written h' (ht ▸ hn) 0
    rw [ht, hsame, readState_written h hn 0] at hread
    exact (Except.ok.inj hread).symm

def labelledInstance : Resource :=
  .computeInstance ⟨"web", "web", some "us-central1-a", none, some "RUNNING",
    [("env", "prod"), ("team", "core")], [⟨some "default", none, some "10.0.0.2"⟩], true⟩

def bucketUploads : Resource :=
  .storageBucketNotification
    ⟨"assets", [⟨"1", "uploads", none, ["OBJECT_FINALIZE"], none, [("origin", "camera")]⟩]⟩

theorem labelledInstance_reread :
    labelledInstance.Ordered ∧ bucketUploads.Ordered ∧
      ResourceType.readState .computeInstance 0 labelledInstance.written = .ok labelledInstance ∧
      ResourceType.readState .storageBucketNotification 0
        (bucketUploads.written.rekey "notifications" "items") = .ok bucketUploads := by
  have hinstance : labelledInstance.Ordered := by
    intro d hd
    obtain rfl := List.mem_singleton.mp hd
    exact List.pairwise_pair.mpr (by decide)
  have huploads : bucketUploads.Ordered := by
    intro d hd
    obtain rfl := List.mem_singleton.mp hd
    exact List.pairwise_singleton _ _
  exact ⟨hinstance, huploads, (readState_toJson _ hinstance).1 nofun 0,
    (readState_toJson _ huploads).2.1 rfl 0⟩

end Resource

end CloudInventory
