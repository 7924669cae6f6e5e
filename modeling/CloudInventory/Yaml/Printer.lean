import CloudInventory.Number.Shortest
import CloudInventory.Yaml.Scalar

/-! Writing a value as a YAML document in block style, two spaces for each level. The items of a
list stand under the key that holds them. -/

namespace CloudInventory.Yaml

def endsLine (text : List Char) : Bool := text.getLast?.any isBreak

/-- Begins a line behind a text, which may have ended its own. -/
def lineAfter (text : List Char) (indent : Nat) : List Char :=
  (if endsLine text then [] else ['\n']) ++ spaces indent

def scalarIn (indent : Nat) : Json → List Char
  | .null => "null".toList
  | .bool true => "true".toList
  | .bool false => "false".toList
  | .number (.int n) => (toString n).toList
  | .number (.float x) => x.text.toList
  | .string s => textIn indent s
  | .array _ => ['[', ']']
  | .object _ => ['\x7b', '\x7d']

/-- What a value stands behind: a key with its colon, or a mark on its own. -/
inductive Lead where
  | key
  | mark
deriving DecidableEq, Repr

/-- The text of an entry's key, up to where its value stands. A key that is too long, or has
several lines, is marked, and so is its value. -/
def keyAt (indent : Nat) (k : String) : List Char × Lead :=
  let text := textIn (indent + 2) k
  if isSimpleKey k then (text ++ [':'], .key)
  else ('?' :: ' ' :: (text ++ lineAfter text indent ++ [':']), .mark)

/-- The way to the first item or entry: on the line of a mark, else on a line of its own. -/
def firstAt (lead : Lead) (indent : Nat) : List Char :=
  match lead with
  | .key => '\n' :: spaces indent
  | .mark => [' ']

mutual

/-- A value behind a key or a mark. -/
def valueAt (lead : Lead) (indent : Nat) : Json → List Char
  | .array (item :: items) =>
    let indent := if lead = .key then indent else indent + 2
    firstAt lead indent ++ itemsAt indent (item :: items)
  | .object (entry :: entries) =>
    firstAt lead (indent + 2) ++ entriesAt (indent + 2) (entry :: entries)
  | v => ' ' :: scalarIn (indent + 2) v

/-- The items of a list, each but the first on a new line. -/
def itemsAt (indent : Nat) : List Json → List Char
  | [] => []
  | v :: vs =>
    let text := valueAt .mark indent v
    '-' :: (text ++ if vs.isEmpty then [] else lineAfter text indent ++ itemsAt indent vs)

/-- The entries of an object, each but the first on a new line. -/
def entriesAt (indent : Nat) : List (String × Json) → List Char
  | [] => []
  | (k, v) :: rest =>
    let (key, behind) := keyAt indent k
    let text := valueAt behind indent v
    key ++ (text ++ if rest.isEmpty then [] else lineAfter text indent ++ entriesAt indent rest)

end

def document (v : Json) : String :=
  let body := match v with
    | .array (item :: items) => itemsAt 0 (item :: items)
    | .object (entry :: entries) => entriesAt 0 (entry :: entries)
    | v => scalarIn 2 v
  String.ofList (body ++ lineAfter body 0)

end CloudInventory.Yaml
