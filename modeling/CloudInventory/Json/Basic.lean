import CloudInventory.Dict
import CloudInventory.Number.Binary64

/-! JSON values. Integers and floating point numbers are told apart, and an object keeps the
order of its entries: key order for what was read, declaration order for what is written. -/

namespace CloudInventory

inductive Number where
  | int (n : Int)
  | float (x : Binary64)
deriving DecidableEq, Inhabited

/-- An integer never equals a float. -/
def Number.same : Number → Number → Bool
  | .int m, .int n => m == n
  | .float x, .float y => x.same y
  | _, _ => false

inductive Json where
  | null
  | bool (b : Bool)
  | number (n : Number)
  | string (s : String)
  | array (items : List Json)
  | object (entries : List (String × Json))
deriving Inhabited

namespace Json

def int (n : Int) : Json := .number (.int n)

def nat (n : Nat) : Json := .number (.int n)

def field? (key : String) : Json → Option Json
  | .object entries => Dict.find? key entries
  | _ => none

def string? : Json → Option String
  | .string s => some s
  | _ => none

def items? : Json → Option (List Json)
  | .array items => some items
  | _ => none

def entries? : Json → Option (List (String × Json))
  | .object entries => some entries
  | _ => none

def ofOption (f : α → Json) : Option α → Json
  | none => .null
  | some a => f a

def strings (ss : List String) : Json := .array (ss.map .string)

def stringDict (d : Dict String) : Json := .object (d.mapValues .string)

mutual

/-- The same value with the entries of every object in key order. -/
def inKeyOrder : Json → Json
  | .array items => .array (itemsInKeyOrder items)
  | .object entries => .object (Dict.ofList (entriesInKeyOrder entries))
  | v => v

def itemsInKeyOrder : List Json → List Json
  | [] => []
  | v :: vs => v.inKeyOrder :: itemsInKeyOrder vs

def entriesInKeyOrder : List (String × Json) → List (String × Json)
  | [] => []
  | (k, v) :: rest => (k, v.inKeyOrder) :: entriesInKeyOrder rest

end

end Json

end CloudInventory
