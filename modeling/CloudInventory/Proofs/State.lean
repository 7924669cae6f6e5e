import CloudInventory.State

/-! States and JSON values are the same trees. -/

namespace CloudInventory.State

mutual

theorem toJson_ofJson : (v : Json) → (ofJson v).toJson = v
  | .null | .bool _ | .number _ | .string _ => rfl
  | .array vs => congrArg Json.array (toItems_ofItems vs)
  | .object entries => congrArg Json.object (toEntries_ofEntries entries)

theorem toItems_ofItems : (vs : List Json) → toItems (ofItems vs) = vs
  | [] => rfl
  | v :: vs => by rw [ofItems, toItems, toJson_ofJson v, toItems_ofItems vs]

theorem toEntries_ofEntries :
    (entries : List (String × Json)) → toEntries (ofEntries entries) = entries
  | [] => rfl
  | (_, v) :: rest => by rw [ofEntries, toEntries, toJson_ofJson v, toEntries_ofEntries rest]

end

mutual

theorem ofJson_toJson : (s : State) → ofJson s.toJson = s
  | .null | .bool _ | .number _ | .text _ => rfl
  | .list ss => congrArg State.list (ofItems_toItems ss)
  | .map entries => congrArg State.map (ofEntries_toEntries entries)

theorem ofItems_toItems : (ss : List State) → ofItems (toItems ss) = ss
  | [] => rfl
  | s :: ss => by rw [toItems, ofItems, ofJson_toJson s, ofItems_toItems ss]

theorem ofEntries_toEntries :
    (entries : List (String × State)) → ofEntries (toEntries entries) = entries
  | [] => rfl
  | (_, s) :: rest => by rw [toEntries, ofEntries, ofJson_toJson s, ofEntries_toEntries rest]

end

theorem ofEntries_eq (entries : Dict Json) : ofEntries entries = entries.mapValues ofJson := by
  induction entries with
  | nil => rfl
  | cons e rest ih => simpa [ofEntries, Dict.mapValues] using ih

theorem toEntries_eq (entries : Dict State) : toEntries entries = entries.mapValues toJson := by
  induction entries with
  | nil => rfl
  | cons e rest ih => simpa [toEntries, Dict.mapValues] using ih

end CloudInventory.State
