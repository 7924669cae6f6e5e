import CloudInventory.Proofs.Text.Order

/-! Sizes of texts in octets. The front of a text that fits into a number of octets is the longest
that does and ends on a character. -/

namespace CloudInventory.Text

variable {c : Char} {cs ds front : List Char} {limit : Nat}

theorem foldl_utf8Size (n : Nat) (cs : List Char) :
    cs.foldl (fun n c => n + c.utf8Size) n = n + utf8Size cs := by
  induction cs generalizing n with
  | nil => rfl
  | cons c cs ih =>
    rw [utf8Size, List.foldl_cons, List.foldl_cons, ih, ih (0 + c.utf8Size)]
    omega

@[simp] theorem utf8Size_nil : utf8Size [] = 0 := rfl

@[simp] theorem utf8Size_cons (c : Char) (cs : List Char) :
    utf8Size (c :: cs) = c.utf8Size + utf8Size cs := by
  rw [utf8Size, List.foldl_cons, foldl_utf8Size, Nat.zero_add]

@[simp] theorem utf8Size_append (cs ds : List Char) :
    utf8Size (cs ++ ds) = utf8Size cs + utf8Size ds := by
  rw [utf8Size, List.foldl_append, foldl_utf8Size]
  rfl

theorem utf8Size_of_le {c : Char} (h : c.toNat ≤ 0x7F) : c.utf8Size = 1 := by
  have hval : c.val ≤ 0x7F := UInt32.le_iff_toNat_le.mpr h
  exact if_pos hval

theorem utf8Size_eq_length (h : ∀ c ∈ cs, c.toNat ≤ 0x7F) : utf8Size cs = cs.length := by
  induction cs with
  | nil => rfl
  | cons c cs ih =>
    rw [utf8Size_cons, utf8Size_of_le (h c List.mem_cons_self),
      ih fun d hd => h d (List.mem_cons_of_mem c hd), List.length_cons]
    omega

theorem utf8Size_toList (s : String) : utf8Size s.toList = s.utf8ByteSize := by
  have hsize : ∀ cs : List Char, (cs.flatMap String.utf8EncodeChar).length = utf8Size cs := by
    intro cs
    induction cs with
    | nil => rfl
    | cons c cs ih => simp [ih]
  have hoctets : (octets s).length = s.utf8ByteSize := by
    rw [octets, Array.length_toList]
    rfl
  rw [← hsize, ← octets_eq, hoctets]

theorem utf8Prefix_isPrefix (limit : Nat) (cs : List Char) : utf8Prefix limit cs <+: cs := by
  induction cs generalizing limit with
  | nil => exact List.nil_prefix
  | cons c cs ih =>
    rw [utf8Prefix]
    split
    · exact List.cons_prefix_cons.mpr ⟨rfl, ih _⟩
    · exact List.nil_prefix

theorem utf8Size_utf8Prefix_le (limit : Nat) (cs : List Char) :
    utf8Size (utf8Prefix limit cs) ≤ limit := by
  induction cs generalizing limit with
  | nil => exact Nat.zero_le _
  | cons c cs ih =>
    rw [utf8Prefix]
    split
    · have hrest := ih (limit - c.utf8Size)
      rw [utf8Size_cons]
      omega
    · exact Nat.zero_le _

theorem isPrefix_utf8Prefix (hfront : front <+: cs) (hsize : utf8Size front ≤ limit) :
    front <+: utf8Prefix limit cs := by
  induction front generalizing cs limit with
  | nil => exact List.nil_prefix
  | cons c front ih =>
    obtain ⟨rest, rfl⟩ := hfront
    rw [utf8Size_cons] at hsize
    rw [List.cons_append, utf8Prefix, if_pos (by omega)]
    exact List.cons_prefix_cons.mpr ⟨rfl, ih (List.prefix_append _ _) (by omega)⟩

theorem utf8Size_le_of_sublist (h : cs.Sublist ds) : utf8Size cs ≤ utf8Size ds := by
  induction h with
  | slnil => exact Nat.le_refl _
  | cons d _ ih =>
    rw [utf8Size_cons]
    omega
  | cons_cons d _ ih =>
    rw [utf8Size_cons, utf8Size_cons]
    omega

theorem eq_of_sublist_of_size_le (h : cs.Sublist ds) (hsize : utf8Size ds ≤ utf8Size cs) :
    cs = ds := by
  induction h with
  | slnil => rfl
  | cons d h _ =>
    have hle := utf8Size_le_of_sublist h
    have hpos := d.utf8Size_pos
    rw [utf8Size_cons] at hsize
    omega
  | cons_cons d _ ih =>
    rw [utf8Size_cons, utf8Size_cons] at hsize
    rw [ih (by omega)]

theorem eq_utf8Prefix_iff : front = utf8Prefix limit cs ↔ front <+: cs ∧ utf8Size front ≤ limit ∧
    ∀ other, other <+: cs → utf8Size other ≤ limit → utf8Size other ≤ utf8Size front := by
  constructor
  · rintro rfl
    refine ⟨utf8Prefix_isPrefix limit cs, utf8Size_utf8Prefix_le limit cs, fun other hother hle => ?_⟩
    obtain ⟨rest, hrest⟩ := isPrefix_utf8Prefix hother hle
    rw [← hrest, utf8Size_append]
    omega
  · rintro ⟨hfront, hsize, hlongest⟩
    have hle := hlongest _ (utf8Prefix_isPrefix limit cs) (utf8Size_utf8Prefix_le limit cs)
    exact eq_of_sublist_of_size_le (isPrefix_utf8Prefix hfront hsize).sublist hle

end CloudInventory.Text
