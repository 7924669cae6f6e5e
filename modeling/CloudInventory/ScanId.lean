import CloudInventory.Text.Digit

/-! Identifiers of scans: 128 bits in hexadecimal, in five groups. -/

namespace CloudInventory

structure ScanId where
  value : Nat
deriving DecidableEq, Repr

namespace ScanId

def nil : ScanId := ⟨0⟩

def hexDigits (n : Nat) : List Char :=
  let ds := Nat.toDigits 16 n
  List.replicate (32 - ds.length) '0' ++ ds

def text (id : ScanId) : String :=
  let ds := hexDigits id.value
  let group := fun start length => String.ofList ((ds.drop start).take length)
  s!"{group 0 8}-{group 8 4}-{group 12 4}-{group 16 4}-{group 20 12}"

def ofDigits? (cs : List Char) : Option ScanId :=
  if cs.length = 32 then (Text.naturalIn? 16 cs).map ScanId.mk else none

/-- The digits of the form with hyphens, which stand only between the groups. -/
def ungrouped? (cs : List Char) : Option (List Char) :=
  if cs.length = 36 ∧ [8, 13, 18, 23].all (fun i => cs[i]? == some '-') then
    some (cs.filter (· ≠ '-'))
  else none

/-- Reads the digits alone, or in groups, which may stand in braces or as a name. -/
def parse? (s : String) : Option ScanId :=
  let cs := s.toList
  let grouped := fun cs => (ungrouped? cs).bind ofDigits?
  match cs with
  | '\x7b' :: rest =>
    if rest.getLast? = some '\x7d' then grouped rest.dropLast else none
  | 'u' :: 'r' :: 'n' :: ':' :: 'u' :: 'u' :: 'i' :: 'd' :: ':' :: rest => grouped rest
  | _ => (ofDigits? cs).or (grouped cs)

end ScanId

end CloudInventory
