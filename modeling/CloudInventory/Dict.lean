/-! Association lists kept in ascending key order, the one dictionary of the library.
A key is found by its first entry, so the lookup laws of `insert` hold of every list and only
uniqueness of the written form needs `Ascending`. -/

namespace CloudInventory

abbrev Dict (α : Type) := List (String × α)

namespace Dict

variable {α β : Type}

def find? (key : String) : Dict α → Option α
  | [] => none
  | (k, a) :: rest => if k = key then some a else find? key rest

def contains (key : String) (d : Dict α) : Bool := (d.find? key).isSome

def insert (key : String) (a : α) : Dict α → Dict α
  | [] => [(key, a)]
  | (k, b) :: rest =>
    if key < k then (key, a) :: (k, b) :: rest
    else if key = k then (key, a) :: rest
    else (k, b) :: insert key a rest

def insertIfAbsent (key : String) (a : α) (d : Dict α) : Dict α :=
  if d.contains key then d else d.insert key a

/-- Of several entries with one key the last is kept. -/
def ofList (entries : List (String × α)) : Dict α :=
  entries.foldl (fun d e => Dict.insert e.1 e.2 d) []

def mapValues (f : α → β) (d : Dict α) : Dict β := d.map fun e => (e.1, f e.2)

def keys (d : Dict α) : List String := d.map (·.1)

/-- Changes the value under a key, starting from `initial` where there is none. -/
def update (key : String) (initial : α) (f : α → α) (d : Dict α) : Dict α :=
  d.insert key (f ((d.find? key).getD initial))

def Ascending (d : Dict α) : Prop := d.Pairwise fun a b => a.1 < b.1

end Dict

end CloudInventory
