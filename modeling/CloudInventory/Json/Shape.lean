import CloudInventory.Json.Basic
import CloudInventory.Number.Shortest
import CloudInventory.Text.Quoted

/-! Shapes of JSON values, and the reading of a value by its shape into data of the type that
the shape describes. A record is read from an object, whose other entries do not matter, or from
the list of its fields' values. -/

namespace CloudInventory

/-- When a field may be without a value. -/
inductive Presence where
  | required
  /-- May be absent from an object, or null. -/
  | optional
  /-- May be absent, never null. -/
  | defaulted
  /-- May be absent, also from the end of a list, or null. -/
  | omissible
deriving DecidableEq

namespace Presence

def nullable : Presence → Bool
  | required | defaulted => false
  | optional | omissible => true

abbrev Carrier : Presence → Type → Type
  | required, α => α
  | optional, α | defaulted, α | omissible, α => Option α

def given : (p : Presence) → α → p.Carrier α
  | required, a => a
  | optional, a | defaulted, a | omissible, a => some a

def absent? : (p : Presence) → Option (p.Carrier α)
  | required => none
  | optional | defaulted | omissible => some none

def pastEnd? : (p : Presence) → Option (p.Carrier α)
  | required | optional => none
  | defaulted | omissible => some none

def null? : (p : Presence) → Option (p.Carrier α)
  | required | defaulted => none
  | optional | omissible => some none

end Presence

mutual

inductive Shape where
  | text
  | flag
  | word32
  /-- One of several words, or an object that has the word as its only key, with null. -/
  | choice (options : List String)
  | list (item : Shape)
  | dict (value : Shape)
  | record (name : String) (fields : Fields)

inductive Fields where
  | nil
  | cons (key : String) (shape : Shape) (presence : Presence) (rest : Fields)

end

mutual

@[reducible] def Shape.Carrier : Shape → Type
  | .text => String
  | .flag => Bool
  | .word32 => UInt32
  | .choice options => Fin options.length
  | .list item => List item.Carrier
  | .dict value => List (String × value.Carrier)
  | .record _ fields => fields.Carrier

@[reducible] def Fields.Carrier : Fields → Type
  | .nil => Unit
  | .cons _ shape presence rest => presence.Carrier shape.Carrier × rest.Carrier

end

def Fields.count : Fields → Nat
  | .nil => 0
  | .cons _ _ _ rest => rest.count + 1

inductive Misfit where
  | wrongKind (found : Json) (expected : String)
  | outOfRange (n : Int) (expected : String)
  | missing (key : String)
  | tooShort (length : Nat) (name : String) (count : Nat)
  | tooLong (length : Nat)
  | unknownWord (word : String) (options : List String)
  | notOneEntry

def Json.described : Json → String
  | .null => "null"
  | .bool b => s!"boolean \x60{b}\x60"
  | .number (.int n) => s!"integer \x60{n}\x60"
  | .number (.float x) => s!"floating point \x60{x.text}\x60"
  | .string s => s!"string {Text.quoted s}"
  | .array _ => "sequence"
  | .object _ => "map"

def wordList : List String → String
  | [] => "there are no variants"
  | [a] => s!"expected \x60{a}\x60"
  | [a, b] => s!"expected \x60{a}\x60 or \x60{b}\x60"
  | options => "expected one of " ++ ", ".intercalate (options.map fun o => s!"\x60{o}\x60")

def Misfit.message : Misfit → String
  | .wrongKind found expected => s!"invalid type: {found.described}, expected {expected}"
  | .outOfRange n expected => s!"invalid value: integer \x60{n}\x60, expected {expected}"
  | .missing key => s!"missing field \x60{key}\x60"
  | .tooShort length name count =>
    let unit := if count = 1 then "element" else "elements"
    s!"invalid length {length}, expected struct {name} with {count} {unit}"
  | .tooLong length => s!"invalid length {length}, expected fewer elements in array"
  | .unknownWord word options => s!"unknown variant \x60{word}\x60, {wordList options}"
  | .notOneEntry => "invalid value: map, expected map with a single key"

inductive FieldMisfit where
  | wrong (key : String) (misfit : Misfit)
  | missing (key : String)

def FieldMisfit.misfit : FieldMisfit → Misfit
  | .wrong _ misfit => misfit
  | .missing key => .missing key

/-- Of two faults the one at the lesser key is reported, and a missing field after any other. -/
def FieldMisfit.first : FieldMisfit → FieldMisfit → FieldMisfit
  | .wrong k m, .wrong k' m' => if k' < k then .wrong k' m' else .wrong k m
  | .wrong k m, .missing _ => .wrong k m
  | .missing _, .wrong k m => .wrong k m
  | .missing k, .missing _ => .missing k

def bothFields (a : Except FieldMisfit α) (b : Except FieldMisfit β) : Except FieldMisfit (α × β) :=
  match a, b with
  | .ok a, .ok b => .ok (a, b)
  | .error e, .ok _ => .error e
  | .ok _, .error e => .error e
  | .error e, .error e' => .error (e.first e')

/-- A field's value, read where it is not null or null is no value of the field. -/
def Presence.readWith (p : Presence) (read : Json → Except Misfit α) (v : Json) :
    Except Misfit (p.Carrier α) :=
  match p.null?, v with
  | some a, .null => .ok a
  | _, v => (read v).map p.given

def readWord (options : List String) (word : String) : Except Misfit (Fin options.length) :=
  match options.finIdxOf? word with
  | some i => .ok i
  | none => .error (.unknownWord word options)

def readChoice (options : List String) : Json → Except Misfit (Fin options.length)
  | .string word => readWord options word
  | .object [(word, v)] =>
    match readWord options word, v with
    | .ok i, .null => .ok i
    | .ok _, v => .error (.wrongKind v "unit")
    | .error e, _ => .error e
  | .object _ => .error .notOneEntry
  | v => .error (.wrongKind v "string or map")

def readWord32 : Json → Except Misfit UInt32
  | .number (.int n) =>
    if 0 ≤ n ∧ n.toNat < 1 <<< 32 then .ok (UInt32.ofNat n.toNat) else .error (.outOfRange n "u32")
  | v => .error (.wrongKind v "u32")

def readEach (read : Json → Except Misfit α) : List Json → Except Misfit (List α)
  | [] => .ok []
  | v :: vs =>
    match read v with
    | .error e => .error e
    | .ok a => (readEach read vs).map (a :: ·)

def readEntry (read : Json → Except Misfit α) : List (String × Json) → Except Misfit (List (String × α))
  | [] => .ok []
  | (k, v) :: rest =>
    match read v with
    | .error e => .error e
    | .ok a => (readEntry read rest).map ((k, a) :: ·)

mutual

def Shape.read : (s : Shape) → Json → Except Misfit s.Carrier
  | .text, .string t => .ok t
  | .text, v => .error (.wrongKind v "a string")
  | .flag, .bool b => .ok b
  | .flag, v => .error (.wrongKind v "a boolean")
  | .word32, v => readWord32 v
  | .choice options, v => readChoice options v
  | .list item, .array vs => readEach item.read vs
  | .list _, v => .error (.wrongKind v "a sequence")
  | .dict value, .object entries => readEntry value.read entries
  | .dict _, v => .error (.wrongKind v "a map")
  | .record _ fields, .object entries =>
    match fields.readEntries entries with
    | .ok c => .ok c
    | .error e => .error e.misfit
  | .record name fields, .array vs => fields.readItems name fields.count vs.length 0 vs
  | .record name _, v => .error (.wrongKind v s!"struct {name}")

def Fields.readEntries : (fs : Fields) → List (String × Json) → Except FieldMisfit fs.Carrier
  | .nil, _ => .ok ()
  | .cons key shape presence rest, entries =>
    let here : Except FieldMisfit (presence.Carrier shape.Carrier) :=
      match Dict.find? key entries with
      | some v =>
        match presence.readWith shape.read v with
        | .ok a => .ok a
        | .error e => .error (.wrong key e)
      | none =>
        match presence.absent? with
        | some a => .ok a
        | none => .error (.missing key)
    bothFields here (rest.readEntries entries)

/-- The fields' values in a list, which holds them in the order of the fields. -/
def Fields.readItems (name : String) (count length : Nat) :
    (fs : Fields) → Nat → List Json → Except Misfit fs.Carrier
  | .nil, _, [] => .ok ()
  | .nil, _, _ :: _ => .error (.tooLong length)
  | .cons _ shape presence rest, i, v :: vs =>
    match presence.readWith shape.read v with
    | .error e => .error e
    | .ok a => (rest.readItems name count length (i + 1) vs).map (a, ·)
  | .cons _ _ presence rest, i, [] =>
    match presence.pastEnd? with
    | none => .error (.tooShort i name count)
    | some a => (rest.readItems name count length (i + 1) []).map (a, ·)

end

end CloudInventory
