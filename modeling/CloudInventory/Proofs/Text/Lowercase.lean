import CloudInventory.Text.Lowercase
import Mathlib.Data.List.DropRight

/-! Lower casing of plain texts: of ASCII characters it is letter by letter, and has nothing left to
do the second time. -/

namespace CloudInventory.Text

def IsAscii (cs : List Char) : Prop := ∀ c ∈ cs, c.toNat < 0x80

instance (cs : List Char) : Decidable (IsAscii cs) := List.decidableBAll _ cs

variable {c d : Char} {cs : List Char}

/-- A capital becomes the letter 32 places on, and any other character stays as it is. -/
theorem toNat_toLower (c : Char) :
    c.toLower.toNat = if 65 ≤ c.toNat ∧ c.toNat ≤ 90 then c.toNat + 32 else c.toNat := by
  have hupper : c.val ≥ 'A'.val ∧ c.val ≤ 'Z'.val ↔ 65 ≤ c.toNat ∧ c.toNat ≤ 90 := Iff.rfl
  have hsum : (c.val + 32).toNat = (c.val.toNat + 32) % 4294967296 := UInt32.toNat_add c.val 32
  unfold Char.toLower
  split
  · next h =>
    have hle : c.val.toNat ≤ 90 := h.2
    rw [if_pos (hupper.mp h)]
    change (c.val + 32).toNat = c.val.toNat + 32
    omega
  · next h => rw [if_neg (mt hupper.mpr h)]

theorem toLower_toLower (c : Char) : c.toLower.toLower = c.toLower := by
  refine Char.toNat_inj.mp ?_
  by_cases hupper : 65 ≤ c.toNat ∧ c.toNat ≤ 90
  · rw [toNat_toLower, toNat_toLower, if_pos hupper, if_neg (by omega)]
  · rw [toNat_toLower, toNat_toLower, if_neg hupper, if_neg hupper]

theorem toLower_eq_iff (hd : d.toNat < 65) : c.toLower = d ↔ c = d := by
  rw [← Char.toNat_inj, ← Char.toNat_inj, toNat_toLower]
  split <;> omega

theorem toLower_lt (h : c.toNat < 0x80) : c.toLower.toNat < 0x80 := by
  rw [toNat_toLower]
  split <;> omega

theorem IsAscii.map_toLower (h : IsAscii cs) : IsAscii (cs.map Char.toLower) := by
  intro c hc
  obtain ⟨d, hd, rfl⟩ := List.mem_map.mp hc
  exact toLower_lt (h d hd)

theorem lowerFrom_ascii (h : IsAscii cs) (before : List Char) :
    lowerFrom before cs = cs.map Char.toLower := by
  induction cs generalizing before with
  | nil => rfl
  | cons c cs ih =>
    obtain ⟨hc, hcs⟩ := List.forall_mem_cons.mp h
    have hsigma : c ≠ capitalSigma := by
      rintro rfl
      exact absurd hc (by decide)
    rw [lowerFrom, if_neg hsigma, lowerChar, if_pos hc, ih hcs]
    rfl

theorem lowercase_ascii (h : IsAscii cs) : lowercase cs = cs.map Char.toLower :=
  lowerFrom_ascii h []

end CloudInventory.Text
