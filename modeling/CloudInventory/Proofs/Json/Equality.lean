import CloudInventory.Json.Basic

/-! Whether two JSON values are one. -/

namespace CloudInventory.Json

mutual

def beq : Json → Json → Bool
  | .null, .null => true
  | .bool b, .bool c => b == c
  | .number m, .number n => decide (m = n)
  | .string s, .string t => s == t
  | .array vs, .array ws => beqItems vs ws
  | .object es, .object fs => beqEntries es fs
  | _, _ => false

def beqItems : List Json → List Json → Bool
  | [], [] => true
  | v :: vs, w :: ws => beq v w && beqItems vs ws
  | _, _ => false

def beqEntries : List (String × Json) → List (String × Json) → Bool
  | [], [] => true
  | (k, v) :: es, (l, w) :: fs => k == l && beq v w && beqEntries es fs
  | _, _ => false

end

mutual

theorem beq_iff : (v w : Json) → (beq v w = true ↔ v = w)
  | .null, w | .bool b, w | .number n, w | .string s, w => by cases w <;> simp [beq]
  | .array vs, w => by cases w <;> simp [beq, beqItems_iff vs]
  | .object es, w => by cases w <;> simp [beq, beqEntries_iff es]

theorem beqItems_iff : (vs ws : List Json) → (beqItems vs ws = true ↔ vs = ws)
  | [], ws => by cases ws <;> simp [beqItems]
  | v :: vs, ws => by cases ws <;> simp [beqItems, beq_iff v, beqItems_iff vs]

theorem beqEntries_iff : (es fs : List (String × Json)) → (beqEntries es fs = true ↔ es = fs)
  | [], fs => by cases fs <;> simp [beqEntries]
  | (k, v) :: es, fs => by
    cases fs <;> simp [beqEntries, beq_iff v, beqEntries_iff es, Prod.ext_iff]

end

instance : DecidableEq Json := fun v w => decidable_of_iff _ (beq_iff v w)

end CloudInventory.Json
