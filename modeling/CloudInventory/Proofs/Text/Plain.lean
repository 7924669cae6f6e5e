import CloudInventory.Proofs.Text.Size
import CloudInventory.Text.Blank

/-! Plain texts, of the graphic characters of ASCII and the space. They have as many octets as
characters. -/

namespace CloudInventory.Text

variable {c : Char} {text : String}

def Plain (text : String) : Prop := ∀ c ∈ text.toList, 0x20 ≤ c.toNat ∧ c.toNat ≤ 0x7E

theorem isPrintableAscii_iff : isPrintableAscii c = true ↔ 0x20 ≤ c.toNat ∧ c.toNat ≤ 0x7E := by
  simp [isPrintableAscii]

theorem isPrintableAscii_of_isDigit (h : c.isDigit = true) : isPrintableAscii c = true := by
  have hdigit : 48 ≤ c.toNat ∧ c.toNat ≤ 57 := by
    simpa [Char.isDigit, UInt32.le_iff_toNat_le] using h
  rw [isPrintableAscii_iff]
  omega

theorem filter_printable (cs : List Char) :
    cs.filter (fun c => 0x20 ≤ c.toNat ∧ c.toNat ≤ 0x7E) = cs.filter isPrintableAscii :=
  List.filter_congr fun c _ => by simp [isPrintableAscii]

theorem plain_iff : Plain text ↔ text.toList.all isPrintableAscii = true := by
  simp only [Plain, List.all_eq_true, isPrintableAscii_iff]

instance (text : String) : Decidable (Plain text) := decidable_of_iff _ plain_iff.symm

theorem Plain.append {other : String} (h : Plain text) (h' : Plain other) :
    Plain (text ++ other) := by
  intro c hc
  rw [String.toList_append, List.mem_append] at hc
  exact hc.elim (h c) (h' c)

theorem Plain.size (h : Plain text) : text.utf8ByteSize = text.length := by
  have hsmall : ∀ c ∈ text.toList, c.toNat ≤ 0x7F := by
    intro c hc
    have hle := (h c hc).2
    omega
  rw [← utf8Size_toList, utf8Size_eq_length hsmall, String.length_toList]

end CloudInventory.Text
