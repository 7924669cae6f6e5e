import CloudInventory.Text.Utf8
import Mathlib.Data.List.Basic

/-! The order of texts. Comparing texts character by character is comparing their octets in UTF-8:
a greater character has a greater octet where the two encodings first differ. -/

namespace CloudInventory.Text

def octets (s : String) : List UInt8 := s.toUTF8.data.toList

theorem octets_eq (s : String) : octets s = s.toList.flatMap String.utf8EncodeChar := by
  have hs : s.toByteArray = s.toList.utf8Encode := by
    rw [← String.toByteArray_ofList, String.ofList_toList]
  simp [octets, hs, List.utf8Encode]

theorem ofUtf8?_octets (s : String) : ofUtf8? (octets s) = some s := by
  have hbytes : ByteArray.mk (octets s).toArray = s.toUTF8 := by
    simp only [octets, Array.toArray_toList]
  have hvalid : s.toUTF8.IsValidUTF8 := s.isValidUTF8
  rw [ofUtf8?, hbytes, String.fromUTF8?, dif_pos hvalid]
  rfl

theorem digit_lt {v w : Nat} (b : Nat) (h : v < w) :
    v / b < w / b ∨ v / b = w / b ∧ v % b < w % b := by
  have hle : v / b ≤ w / b := Nat.div_le_div_right (Nat.le_of_lt h)
  rcases Nat.lt_or_eq_of_le hle with hlt | heq
  · exact .inl hlt
  · have hv := Nat.div_add_mod v b
    have hw := Nat.div_add_mod w b
    rw [heq] at hv
    exact .inr ⟨heq, by omega⟩

/-- Numbers compare by their digits to the base 64, the highest first. -/
theorem digits_lt {v w : Nat} (h : v < w) (hw : w < 64 * 64 * 64 * 8) :
    v / 262144 % 8 < w / 262144 % 8 ∨ v / 262144 % 8 = w / 262144 % 8 ∧
      (v / 4096 % 64 < w / 4096 % 64 ∨ v / 4096 % 64 = w / 4096 % 64 ∧
        (v / 64 % 64 < w / 64 % 64 ∨ v / 64 % 64 = w / 64 % 64 ∧ v % 64 < w % 64)) := by
  have hmid : ∀ x : Nat, x / 4096 = x / 64 / 64 := by omega
  have hhigh : ∀ x : Nat, x / 262144 = x / 64 / 64 / 64 := by omega
  have htop : ∀ x, x < 64 * 64 * 64 * 8 → x / 64 / 64 / 64 % 8 = x / 64 / 64 / 64 := by omega
  rw [hmid, hmid, hhigh, hhigh, htop v (by omega), htop w hw]
  rcases digit_lt 64 h with h1 | ⟨h1, hlow⟩
  · rcases digit_lt 64 h1 with h2 | ⟨h2, hlow⟩
    · rcases digit_lt 64 h2 with h3 | ⟨h3, hlow⟩
      · exact .inl h3
      · exact .inr ⟨h3, .inl hlow⟩
    · exact .inr ⟨by rw [h2], .inr ⟨by rw [h2], .inl hlow⟩⟩
  · exact .inr ⟨by rw [h1], .inr ⟨by rw [h1], .inr ⟨by rw [h1], hlow⟩⟩⟩

theorem encode_lt {c d : Char} (h : c < d) (xs ys : List UInt8) :
    String.utf8EncodeChar c ++ xs < String.utf8EncodeChar d ++ ys := by
  have hlt : c.val.toNat < d.val.toNat := h
  have hd : d.val.toNat < 64 * 64 * 64 * 8 := by
    have hvalid : d.val.toNat < 0xd800 ∨ 0xdfff < d.val.toNat ∧ d.val.toNat < 0x110000 := d.valid
    omega
  have hdigits := digits_lt hlt hd
  unfold String.utf8EncodeChar
  simp only
  split_ifs
  all_goals
    simp only [List.cons_append, List.nil_append, List.cons_lt_cons_iff, UInt8.lt_iff_toNat_lt,
      ← UInt8.toNat_inj, UInt8.toNat_ofNat']
    simp (disch := omega) only [Nat.mod_eq_of_lt (b := 2 ^ 8)]
    omega

theorem flatMap_encode_lt {cs ds : List Char} (h : cs < ds) :
    cs.flatMap String.utf8EncodeChar < ds.flatMap String.utf8EncodeChar := by
  induction h with
  | @nil d ds =>
    obtain ⟨x, xs, hx⟩ := List.exists_cons_of_ne_nil (String.utf8EncodeChar_ne_nil (c := d))
    rw [List.flatMap_nil, List.flatMap_cons, hx, List.cons_append]
    exact List.nil_lt_cons _ _
  | rel hcd =>
    rw [List.flatMap_cons, List.flatMap_cons]
    exact encode_lt hcd _ _
  | cons _ ih =>
    rw [List.flatMap_cons, List.flatMap_cons]
    exact List.append_left_lt ih

theorem lt_of_lt {a b : String} (h : a < b) : octets a < octets b := by
  rw [octets_eq, octets_eq]
  exact flatMap_encode_lt h

theorem octets_lt_iff {a b : String} : octets a < octets b ↔ a < b := by
  constructor
  · intro h
    rcases String.le_total b a with hle | hle
    · by_cases hba : b < a
      · exact absurd (lt_of_lt hba) (List.lt_asymm h)
      · obtain rfl := String.le_antisymm (String.not_lt.mp hba) hle
        exact absurd h (List.lt_irrefl _)
    · by_contra hab
      obtain rfl := String.le_antisymm hle (String.not_lt.mp hab)
      exact List.lt_irrefl _ h
  · exact lt_of_lt

theorem octets_le_iff {a b : String} : octets a ≤ octets b ↔ a ≤ b := by
  rw [← String.not_lt, ← octets_lt_iff, List.not_lt]

end CloudInventory.Text
