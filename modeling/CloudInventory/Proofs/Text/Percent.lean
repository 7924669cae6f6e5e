import CloudInventory.Proofs.Text.Order
import CloudInventory.Text.Percent

/-! Percent coding. The characters that are kept stand for themselves, and nothing but them and
percent signs occurs in an encoded text, which decodes to the text that it was made of. -/

namespace CloudInventory.Text

section Octets

theorem toList_loop (bytes : ByteArray) (i : Nat) (taken : List UInt8) :
    ByteArray.toList.loop bytes i taken = taken.reverse ++ bytes.data.toList.drop i := by
  induction i, taken using ByteArray.toList.loop.induct bytes with
  | case1 i taken hlt ih =>
    have hi : i < bytes.data.toList.length := by simpa using hlt
    have hget : bytes.get! i = bytes.data.toList[i] := by
      simp only [ByteArray.get!, Array.getElem_toList]
      exact getElem!_pos bytes.data i hlt
    rw [ByteArray.toList.loop, if_pos hlt, ih, List.drop_eq_getElem_cons hi, hget]
    simp
  | case2 i taken hge =>
    have hi : bytes.data.toList.length ≤ i := by simpa using hge
    rw [ByteArray.toList.loop, if_neg hge, List.drop_eq_nil_of_le hi, List.append_nil]

theorem utf8Octets_toList (s : String) : utf8Octets s.toList = octets s := by
  rw [utf8Octets, String.ofList_toList, ByteArray.toList, toList_loop]
  rfl

theorem utf8Octets_eq (cs : List Char) : utf8Octets cs = cs.flatMap String.utf8EncodeChar := by
  have h := utf8Octets_toList (String.ofList cs)
  rwa [octets_eq, String.toList_ofList] at h

@[simp] theorem utf8Octets_nil : utf8Octets [] = [] := by rw [utf8Octets_eq, List.flatMap_nil]

@[simp] theorem utf8Octets_append (cs ds : List Char) :
    utf8Octets (cs ++ ds) = utf8Octets cs ++ utf8Octets ds := by
  simp only [utf8Octets_eq, List.flatMap_append]

theorem utf8Octets_cons (c : Char) (cs : List Char) :
    utf8Octets (c :: cs) = String.utf8EncodeChar c ++ utf8Octets cs := by
  simp only [utf8Octets_eq, List.flatMap_cons]

end Octets

/-- Letters, digits and `-_.~`. -/
def isKept (c : Char) : Bool := c.isAlphanum || c == '-' || c == '_' || c == '.' || c == '~'

def escapedOctet (b : UInt8) : List Char := ['%', hexDigit (b.toNat / 16), hexDigit (b.toNat % 16)]

section Characters

variable {c : Char} {b : UInt8} {cs : List Char}

theorem isUnreserved_eq (b : UInt8) :
    isUnreserved b = (decide (b.toNat < 0x80) && isKept (Char.ofNat b.toNat)) := rfl

theorem percentOctet_of_unreserved (h : isUnreserved b = true) :
    percentOctet b = [Char.ofNat b.toNat] := by
  rw [percentOctet, if_pos h]

theorem percentOctet_of_reserved (h : isUnreserved b = false) :
    percentOctet b = escapedOctet b := by
  rw [percentOctet, if_neg (by simp [h])]
  rfl

theorem isKept_hexDigit : ∀ n < 16, isKept (hexDigit n) = true := by decide

theorem ascii_of_isKept (h : isKept c = true) : c.toNat < 0x80 := by
  delta isKept Char.isAlphanum Char.isAlpha Char.isUpper Char.isLower Char.isDigit at h
  simp only [Bool.or_eq_true, Bool.and_eq_true, decide_eq_true_eq, beq_iff_eq,
    UInt32.le_iff_toNat_le, ge_iff_le] at h
  have hval : c.val.toNat = c.toNat := rfl
  have hZ : 'Z'.val.toNat = 90 := rfl
  have hz : 'z'.val.toNat = 122 := rfl
  have h9 : '9'.val.toNat = 57 := rfl
  rcases h with (((h | rfl) | rfl) | rfl) | rfl
  · omega
  all_goals decide

theorem utf8EncodeChar_ascii (h : c.toNat < 0x80) :
    String.utf8EncodeChar c = [UInt8.ofNat c.toNat] := by
  have hval : c.val.toNat ≤ 127 := Nat.le_of_lt_succ h
  simp only [String.utf8EncodeChar, if_pos hval]
  rfl

theorem utf8Octets_ascii (h : ∀ c ∈ cs, c.toNat < 0x80) :
    utf8Octets cs = cs.map fun c => UInt8.ofNat c.toNat := by
  induction cs with
  | nil => exact utf8Octets_nil
  | cons c cs ih =>
    obtain ⟨hc, hcs⟩ := List.forall_mem_cons.mp h
    rw [utf8Octets_cons, utf8EncodeChar_ascii hc, ih hcs]
    rfl

/-- Every octet of a character beyond ASCII has its highest bit set. -/
theorem le_of_mem_utf8EncodeChar (hc : 0x80 ≤ c.toNat) (hb : b ∈ String.utf8EncodeChar c) :
    0x80 ≤ b.toNat := by
  have hval : ¬c.val.toNat ≤ 127 := Nat.not_le_of_lt hc
  simp only [String.utf8EncodeChar, if_neg hval] at hb
  split_ifs at hb
  all_goals
    simp only [List.mem_cons, List.not_mem_nil, or_false] at hb
    rcases hb with rfl | rfl | rfl | rfl
    all_goals
      simp only [UInt8.toNat_ofNat']
      omega

/-- The octets of a character are kept where the character is. -/
theorem isUnreserved_of_mem (hb : b ∈ String.utf8EncodeChar c) : isUnreserved b = isKept c := by
  rw [isUnreserved_eq]
  by_cases hc : c.toNat < 0x80
  · rw [utf8EncodeChar_ascii hc, List.mem_singleton] at hb
    have hnat : b.toNat = c.toNat := by
      rw [hb, UInt8.toNat_ofNat']
      omega
    rw [hnat, Char.ofNat_toNat, decide_eq_true hc, Bool.true_and]
  · have hhigh := le_of_mem_utf8EncodeChar (Nat.not_lt.mp hc) hb
    have hfalse : isKept c = false := Bool.eq_false_iff.mpr fun hk => hc (ascii_of_isKept hk)
    rw [hfalse, decide_eq_false (Nat.not_lt.mpr hhigh), Bool.false_and]

end Characters

section Encoding

variable {c : Char} {b : UInt8} {cs : List Char}

@[simp] theorem percentEncode_nil : percentEncode [] = [] := by
  rw [percentEncode, utf8Octets_nil, List.flatMap_nil]

theorem percentEncode_cons (c : Char) (cs : List Char) :
    percentEncode (c :: cs) =
      (String.utf8EncodeChar c).flatMap percentOctet ++ percentEncode cs := by
  rw [percentEncode, utf8Octets_cons, List.flatMap_append, percentEncode]

theorem flatMap_percentOctet (c : Char) :
    (String.utf8EncodeChar c).flatMap percentOctet =
      if isKept c then [c] else (String.utf8EncodeChar c).flatMap escapedOctet := by
  cases hc : isKept c with
  | true =>
    have hascii := ascii_of_isKept hc
    have hoctet : UInt8.ofNat c.toNat ∈ String.utf8EncodeChar c := by
      rw [utf8EncodeChar_ascii hascii]
      exact List.mem_singleton_self _
    have hnat : (UInt8.ofNat c.toNat).toNat = c.toNat := by
      rw [UInt8.toNat_ofNat']
      omega
    rw [utf8EncodeChar_ascii hascii, List.flatMap_singleton,
      percentOctet_of_unreserved ((isUnreserved_of_mem hoctet).trans hc), hnat, Char.ofNat_toNat,
      if_pos rfl]
  | false =>
    rw [if_neg (by simp)]
    refine List.flatMap_congr fun b hb => ?_
    exact percentOctet_of_reserved ((isUnreserved_of_mem hb).trans hc)

/-- A character is kept, or all of its octets are escaped. -/
theorem percentEncode_eq (cs : List Char) : percentEncode cs = cs.flatMap fun c =>
    if isKept c then [c] else (String.utf8EncodeChar c).flatMap escapedOctet := by
  induction cs with
  | nil => exact percentEncode_nil
  | cons c cs ih => rw [percentEncode_cons, flatMap_percentOctet, ih, List.flatMap_cons]

theorem mem_escapedOctet (hc : c ∈ escapedOctet b) : isKept c = true ∨ c = '%' := by
  have hb : b.toNat < 256 := b.toNat_lt
  simp only [escapedOctet, List.mem_cons, List.not_mem_nil, or_false] at hc
  rcases hc with rfl | rfl | rfl
  · exact .inr rfl
  · exact .inl (isKept_hexDigit _ (by omega))
  · exact .inl (isKept_hexDigit _ (by omega))

theorem mem_percentEncode (hc : c ∈ percentEncode cs) : isKept c = true ∨ c = '%' := by
  rw [percentEncode_eq] at hc
  obtain ⟨d, _, hd⟩ := List.mem_flatMap.mp hc
  split_ifs at hd with hkept
  · obtain rfl := List.mem_singleton.mp hd
    exact .inl hkept
  · obtain ⟨b, _, hb⟩ := List.mem_flatMap.mp hd
    exact mem_escapedOctet hb

end Encoding

section Decoding

variable {b high low : UInt8} {rest : List UInt8}

/-- What a percent-encoded text stands for, if that is text. -/
def percentDecoded? (cs : List Char) : Option String := ofUtf8? (percentDecode (utf8Octets cs))

theorem hexDigit?_hexDigit : ∀ n < 16,
    hexDigit? (UInt8.ofNat (hexDigit n).toNat) = some (UInt8.ofNat n) := by decide

theorem percentDecode_plain (hb : b ≠ 37) :
    percentDecode (b :: rest) = b :: percentDecode rest := by
  rw [percentDecode]
  exact fun _ _ _ h => absurd h hb

theorem percentDecode_escaped {a a' : UInt8} (ha : hexDigit? a = some high)
    (ha' : hexDigit? a' = some low) (rest : List UInt8) :
    percentDecode (37 :: a :: a' :: rest) = (high * 16 + low) :: percentDecode rest := by
  rw [percentDecode, ha, ha']

theorem utf8Octets_escapedOctet (b : UInt8) :
    utf8Octets (escapedOctet b) =
      [37, UInt8.ofNat (hexDigit (b.toNat / 16)).toNat,
        UInt8.ofNat (hexDigit (b.toNat % 16)).toNat] := by
  refine utf8Octets_ascii fun c hc => ?_
  rcases mem_escapedOctet hc with hkept | rfl
  · exact ascii_of_isKept hkept
  · decide

theorem percentDecode_percentOctet (b : UInt8) (rest : List UInt8) :
    percentDecode (utf8Octets (percentOctet b) ++ rest) = b :: percentDecode rest := by
  have hb : b.toNat < 256 := b.toNat_lt
  cases hun : isUnreserved b with
  | true =>
    have hkept : isKept (Char.ofNat b.toNat) = true := (Bool.and_eq_true_iff.mp hun).2
    have hoctets : utf8Octets [Char.ofNat b.toNat] = [b] := by
      have hvalid : b.toNat.isValidChar := .inl (by omega)
      have hnat : (Char.ofNat b.toNat).toNat = b.toNat := by
        rw [Char.ofNat, dif_pos hvalid]
        rfl
      rw [utf8Octets_cons, utf8EncodeChar_ascii (ascii_of_isKept hkept), hnat, utf8Octets_nil,
        UInt8.ofNat_toNat, List.append_nil]
    have hne : b ≠ 37 := by
      rintro rfl
      exact absurd hkept (by decide)
    rw [percentOctet_of_unreserved hun, hoctets]
    exact percentDecode_plain hne
  | false =>
    have hdigits : UInt8.ofNat (b.toNat / 16) * 16 + UInt8.ofNat (b.toNat % 16) = b := by
      apply UInt8.toNat_inj.mp
      simp only [UInt8.toNat_add, UInt8.toNat_mul, UInt8.toNat_ofNat', UInt8.reduceToNat]
      omega
    rw [percentOctet_of_reserved hun, utf8Octets_escapedOctet]
    have hhigh := hexDigit?_hexDigit (b.toNat / 16) (by omega)
    have hlow := hexDigit?_hexDigit (b.toNat % 16) (by omega)
    have hescaped := percentDecode_escaped hhigh hlow rest
    rwa [hdigits] at hescaped

theorem percentDecode_flatMap (bytes : List UInt8) :
    percentDecode (utf8Octets (bytes.flatMap percentOctet)) = bytes := by
  induction bytes with
  | nil => rw [List.flatMap_nil, utf8Octets_nil, percentDecode]
  | cons b bytes ih =>
    rw [List.flatMap_cons, utf8Octets_append, percentDecode_percentOctet, ih]

/-- An encoded text stands for the text that it was made of. -/
theorem percentDecoded?_percentEncode (s : String) :
    percentDecoded? (percentEncode s.toList) = some s := by
  rw [percentDecoded?, percentEncode, percentDecode_flatMap, utf8Octets_toList, ofUtf8?_octets]

end Decoding

end CloudInventory.Text
