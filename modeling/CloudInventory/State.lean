import CloudInventory.Json.Basic

/-! The state of a remote resource: a tree of scalars, lists and maps, independent of the service
that reported it. Only a map takes new keys; on every other state an update does nothing. -/

namespace CloudInventory

inductive State where
  | null
  | bool (b : Bool)
  | number (n : Number)
  | text (s : String)
  | list (items : List State)
  | map (entries : List (String × State))
deriving Inhabited

namespace State

def kind : State → String
  | .null => "null"
  | .bool _ => "bool"
  | .number _ => "number"
  | .text _ => "string"
  | .list _ => "list"
  | .map _ => "map"

def isNull : State → Bool
  | .null => true
  | _ => false

def text? : State → Option String
  | .text s => some s
  | _ => none

def entries? : State → Option (Dict State)
  | .map entries => some entries
  | _ => none

def get? (s : State) (key : String) : Option State :=
  match s with
  | .map entries => Dict.find? key entries
  | _ => none

def set (s : State) (key : String) (value : State) : State :=
  match s with
  | .map entries => .map (Dict.insert key value entries)
  | s => s

/-- Keeps the value of a key that is there already. -/
def setDefault (s : State) (key : String) (value : State) : State :=
  match s with
  | .map entries => .map (Dict.insertIfAbsent key value entries)
  | s => s

mutual

def ofJson : Json → State
  | .null => .null
  | .bool b => .bool b
  | .number n => .number n
  | .string s => .text s
  | .array items => .list (ofItems items)
  | .object entries => .map (ofEntries entries)

def ofItems : List Json → List State
  | [] => []
  | v :: vs => ofJson v :: ofItems vs

def ofEntries : List (String × Json) → List (String × State)
  | [] => []
  | (k, v) :: rest => (k, ofJson v) :: ofEntries rest

end

mutual

def toJson : State → Json
  | .null => .null
  | .bool b => .bool b
  | .number n => .number n
  | .text s => .string s
  | .list items => .array (toItems items)
  | .map entries => .object (toEntries entries)

def toItems : List State → List Json
  | [] => []
  | s :: ss => s.toJson :: toItems ss

def toEntries : List (String × State) → List (String × Json)
  | [] => []
  | (k, s) :: rest => (k, s.toJson) :: toEntries rest

end

mutual

/-- Equality up to the sign of a zero. -/
def same : State → State → Bool
  | .null, .null => true
  | .bool a, .bool b => a == b
  | .number m, .number n => m.same n
  | .text s, .text t => s == t
  | .list ss, .list ts => sameItems ss ts
  | .map ss, .map ts => sameEntries ss ts
  | _, _ => false

def sameItems : List State → List State → Bool
  | [], [] => true
  | s :: ss, t :: ts => s.same t && sameItems ss ts
  | _, _ => false

def sameEntries : List (String × State) → List (String × State) → Bool
  | [], [] => true
  | (k, s) :: ss, (l, t) :: ts => k == l && s.same t && sameEntries ss ts
  | _, _ => false

end

end State

end CloudInventory
