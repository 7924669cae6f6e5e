/-! Digits in bases up to thirty-six, letters of either case following the ten figures, and the
numbers that they spell. -/

namespace CloudInventory.Text

def digitIn? (base : Nat) (c : Char) : Option Nat :=
  let value? :=
    if c.isDigit then some (c.toNat - 48)
    else if 'a' ≤ c ∧ c ≤ 'z' then some (c.toNat - 87)
    else if 'A' ≤ c ∧ c ≤ 'Z' then some (c.toNat - 55)
    else none
  value?.filter (· < base)

/-- The number that digits spell; no digits at all stand for zero. -/
def valueIn? (base : Nat) (ds : List Char) : Option Nat :=
  ds.foldlM (fun n d => (digitIn? base d).map (n * base + ·)) 0

/-- The number that digits spell, of which there is at least one. -/
def naturalIn? (base : Nat) (ds : List Char) : Option Nat :=
  if ds.isEmpty then none else valueIn? base ds

end CloudInventory.Text
