import CloudInventory.Json.Shape

/-! Service accounts and their keys. -/

namespace CloudInventory

structure ServiceAccount where
  /-- The account's address. -/
  id : String
  email : String
  displayName : Option String
  description : Option String
  uniqueId : Option String
  disabled : Bool
deriving DecidableEq, Repr

namespace ServiceAccount

@[reducible] def fields : Fields :=
  .cons "id" .text .required <|
  .cons "email" .text .required <|
  .cons "displayName" .text .optional <|
  .cons "description" .text .optional <|
  .cons "uniqueId" .text .optional <|
  .cons "disabled" .flag .defaulted <|
  .nil

def ofFields : fields.Carrier → ServiceAccount
  | (id, email, displayName, description, uniqueId, disabled, ()) =>
    { id, email, displayName, description, uniqueId
      disabled := disabled.getD false }

def entries (r : ServiceAccount) : List (String × Json) :=
  [("id", .string r.id),
    ("email", .string r.email),
    ("displayName", .ofOption .string r.displayName),
    ("description", .ofOption .string r.description),
    ("uniqueId", .ofOption .string r.uniqueId),
    ("disabled", .bool r.disabled)]

end ServiceAccount

structure ServiceAccountKey where
  /-- The last segment of the name. -/
  id : String
  name : String
  serviceAccount : String
  keyType : Option String
  keyAlgorithm : Option String
  keyOrigin : Option String
  validAfterTime : Option String
  validBeforeTime : Option String
  disabled : Bool
deriving DecidableEq, Repr

namespace ServiceAccountKey

@[reducible] def fields : Fields :=
  .cons "id" .text .required <|
  .cons "name" .text .required <|
  .cons "serviceAccount" .text .required <|
  .cons "keyType" .text .optional <|
  .cons "keyAlgorithm" .text .optional <|
  .cons "keyOrigin" .text .optional <|
  .cons "validAfterTime" .text .optional <|
  .cons "validBeforeTime" .text .optional <|
  .cons "disabled" .flag .defaulted <|
  .nil

def ofFields : fields.Carrier → ServiceAccountKey
  | (id, name, serviceAccount, keyType, keyAlgorithm, keyOrigin, validAfterTime, validBeforeTime,
      disabled, ()) =>
    { id, name, serviceAccount, keyType, keyAlgorithm, keyOrigin, validAfterTime, validBeforeTime
      disabled := disabled.getD false }

def entries (r : ServiceAccountKey) : List (String × Json) :=
  [("id", .string r.id),
    ("name", .string r.name),
    ("serviceAccount", .string r.serviceAccount),
    ("keyType", .ofOption .string r.keyType),
    ("keyAlgorithm", .ofOption .string r.keyAlgorithm),
    ("keyOrigin", .ofOption .string r.keyOrigin),
    ("validAfterTime", .ofOption .string r.validAfterTime),
    ("validBeforeTime", .ofOption .string r.validBeforeTime),
    ("disabled", .bool r.disabled)]

end ServiceAccountKey

end CloudInventory
