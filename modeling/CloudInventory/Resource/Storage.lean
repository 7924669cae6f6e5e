import CloudInventory.Json.Shape

/-! Buckets and their notifications. The notifications of a bucket are one resource; a bucket
without any has no configuration of them. -/

namespace CloudInventory

structure Versioning where
  enabled : Bool
deriving DecidableEq, Repr

namespace Versioning

@[reducible] def fields : Fields := .cons "enabled" .flag .defaulted .nil

def ofFields : fields.Carrier → Versioning
  | (enabled, ()) => { enabled := enabled.getD false }

def toJson (v : Versioning) : Json := .object [("enabled", .bool v.enabled)]

end Versioning

structure StorageBucket where
  id : String
  name : String
  location : Option String
  storageClass : Option String
  versioning : Option Versioning
  labels : Dict String
deriving DecidableEq, Repr

namespace StorageBucket

@[reducible] def fields : Fields :=
  .cons "id" .text .required <|
  .cons "name" .text .required <|
  .cons "location" .text .optional <|
  .cons "storageClass" .text .optional <|
  .cons "versioning" (.record "Versioning" Versioning.fields) .optional <|
  .cons "labels" (.dict .text) .defaulted <|
  .nil

def ofFields : fields.Carrier → StorageBucket
  | (id, name, location, storageClass, versioning, labels, ()) =>
    { id, name, location, storageClass
      versioning := versioning.map Versioning.ofFields
      labels := labels.getD [] }

def entries (r : StorageBucket) : List (String × Json) :=
  [("id", .string r.id),
    ("name", .string r.name),
    ("location", .ofOption .string r.location),
    ("storageClass", .ofOption .string r.storageClass),
    ("versioning", .ofOption Versioning.toJson r.versioning),
    ("labels", .stringDict r.labels)]

end StorageBucket

structure NotificationConfig where
  id : String
  topic : String
  payloadFormat : Option String
  eventTypes : List String
  objectNamePrefix : Option String
  customAttributes : Dict String
deriving DecidableEq, Repr

namespace NotificationConfig

@[reducible] def fields : Fields :=
  .cons "id" .text .required <|
  .cons "topic" .text .required <|
  .cons "payload_format" .text .optional <|
  .cons "event_types" (.list .text) .defaulted <|
  .cons "object_name_prefix" .text .optional <|
  .cons "custom_attributes" (.dict .text) .defaulted <|
  .nil

def ofFields : fields.Carrier → NotificationConfig
  | (id, topic, payloadFormat, eventTypes, objectNamePrefix, customAttributes, ()) =>
    { id, topic, payloadFormat, objectNamePrefix
      eventTypes := eventTypes.getD []
      customAttributes := customAttributes.getD [] }

def toJson (c : NotificationConfig) : Json :=
  .object [
    ("id", .string c.id),
    ("topic", .string c.topic),
    ("payload_format", .ofOption .string c.payloadFormat),
    ("event_types", .strings c.eventTypes),
    ("object_name_prefix", .ofOption .string c.objectNamePrefix),
    ("custom_attributes", .stringDict c.customAttributes)]

end NotificationConfig

structure StorageBucketNotification where
  /-- The bucket's name. -/
  id : String
  notifications : List NotificationConfig
deriving DecidableEq, Repr

namespace StorageBucketNotification

@[reducible] def fields : Fields :=
  .cons "id" .text .required <|
  .cons "items" (.list (.record "NotificationConfig" NotificationConfig.fields)) .defaulted <|
  .nil

def ofFields : fields.Carrier → StorageBucketNotification
  | (id, items, ()) =>
    { id, notifications := (items.getD []).map NotificationConfig.ofFields }

def entries (r : StorageBucketNotification) : List (String × Json) :=
  [("id", .string r.id),
    ("notifications", .array (r.notifications.map NotificationConfig.toJson))]

end StorageBucketNotification

end CloudInventory
