import CloudInventory.Inventory
import CloudInventory.Proofs.Dict
import CloudInventory.Proofs.Text.Order
import Mathlib.Data.List.Induction
import Mathlib.Data.List.Nodup

/-! The order and the counts of an inventory. Sorting keeps all resources, puts them in the byte
order of their types and identifiers, and leaves those with the same key as they were. -/

namespace CloudInventory.Inventory

open Text (octets octets_lt_iff octets_le_iff)

def key (r : Resource) : String × String := (r.type.name, r.id)

def InByteOrder (a b : Resource) : Prop :=
  octets a.type.name < octets b.type.name ∨ a.type.name = b.type.name ∧ octets a.id ≤ octets b.id

theorem precedes_iff {a b : Resource} : precedes a b = true ↔ InByteOrder a b := by
  simp [precedes, InByteOrder, octets_lt_iff, octets_le_iff]

theorem precedes_trans (a b c : Resource) (hab : precedes a b = true)
    (hbc : precedes b c = true) : precedes a c = true := by
  simp only [precedes, Bool.or_eq_true, Bool.and_eq_true, decide_eq_true_eq, beq_iff_eq] at *
  rcases hab with hab | ⟨hab, hid⟩
  · rcases hbc with hbc | ⟨hbc, _⟩
    · exact .inl (String.lt_trans hab hbc)
    · exact .inl (hbc ▸ hab)
  · rcases hbc with hbc | ⟨hbc, hid'⟩
    · exact .inl (hab ▸ hbc)
    · exact .inr ⟨hab.trans hbc, String.le_trans hid hid'⟩

theorem precedes_total (a b : Resource) : (precedes a b || precedes b a) = true := by
  simp only [precedes, Bool.or_eq_true, Bool.and_eq_true, decide_eq_true_eq, beq_iff_eq]
  by_cases hab : a.type.name < b.type.name
  · exact .inl (.inl hab)
  · by_cases hba : b.type.name < a.type.name
    · exact .inr (.inl hba)
    · have htype := String.le_antisymm (String.not_lt.mp hba) (String.not_lt.mp hab)
      exact (String.le_total a.id b.id).imp (fun h => .inr ⟨htype, h⟩) fun h => .inr ⟨htype.symm, h⟩

theorem precedes_of_key_eq {a b : Resource} (h : key a = key b) : precedes a b = true := by
  obtain ⟨htype, hid⟩ := Prod.mk.inj h
  simp [precedes, htype, hid]

theorem key_eq_of_precedes {a b : Resource} (hab : precedes a b = true)
    (hba : precedes b a = true) : key a = key b := by
  simp only [precedes, Bool.or_eq_true, Bool.and_eq_true, decide_eq_true_eq, beq_iff_eq] at hab hba
  rcases hab with hab | ⟨htype, hid⟩
  · rcases hba with hba | ⟨htype, _⟩
    · exact absurd hba (String.lt_asymm hab)
    · exact absurd htype.symm (String.ne_of_lt hab)
  · rcases hba with hba | ⟨_, hid'⟩
    · exact absurd htype.symm (String.ne_of_lt hba)
    · exact Prod.ext htype (String.le_antisymm hid hid')

section Sorting

variable (resources : List Resource)

theorem sorted_perm : (sorted resources).Perm resources := List.mergeSort_perm _ _

theorem sorted_pairwise : (sorted resources).Pairwise (precedes · · = true) :=
  @List.pairwise_mergeSort Resource precedes precedes_trans precedes_total resources

theorem sorted_stable (k : String × String) :
    (sorted resources).filter (key · = k) = resources.filter (key · = k) := by
  have hsame : (resources.filter (key · = k)).Pairwise (precedes · · = true) := by
    refine List.pairwise_of_forall_mem_list fun a ha b hb => precedes_of_key_eq ?_
    have hka : key a = k := by simpa using (List.mem_filter.mp ha).2
    have hkb : key b = k := by simpa using (List.mem_filter.mp hb).2
    rw [hka, hkb]
  have hsub : (resources.filter (key · = k)).Sublist (sorted resources) :=
    @List.sublist_mergeSort Resource precedes _ precedes_trans precedes_total _ hsame
      List.filter_sublist
  have hsub' := hsub.filter (key · = k)
  rw [List.filter_filter] at hsub'
  simp only [Bool.and_self] at hsub'
  exact (hsub'.eq_of_length ((sorted_perm resources).filter _).length_eq.symm).symm

end Sorting

/-- Without two resources of one key, the order leaves no choice. -/
theorem sorted_eq_of_perm {xs ys : List Resource} (h : xs.Perm ys) (hkeys : (xs.map key).Nodup) :
    sorted xs = sorted ys := by
  have hp : (sorted xs).Perm (sorted ys) := (sorted_perm xs).trans (h.trans (sorted_perm ys).symm)
  refine hp.eq_of_pairwise (fun a b ha hb hab hba => ?_) (sorted_pairwise xs) (sorted_pairwise ys)
  have hmem : a ∈ xs := (sorted_perm xs).mem_iff.mp ha
  have hmem' : b ∈ xs := h.mem_iff.mpr ((sorted_perm ys).mem_iff.mp hb)
  exact List.inj_on_of_nodup_map hkeys hmem hmem' (key_eq_of_precedes hab hba)

section Counts

theorem countByType_append (xs : List Resource) (r : Resource) :
    countByType (xs ++ [r]) = Dict.update r.type.name 0 (· + 1) (countByType xs) := by
  simp [countByType, List.foldl_append]

theorem countByType_ascending (xs : List Resource) : Dict.Ascending (countByType xs) := by
  induction xs using List.reverseRecOn with
  | nil => exact List.Pairwise.nil
  | append_singleton xs r ih =>
    rw [countByType_append]
    exact ih.update _ _ _

theorem countByType_find? (type : String) (xs : List Resource) :
    ((countByType xs).find? type).getD 0 = (ofType type xs).length := by
  induction xs using List.reverseRecOn with
  | nil => rfl
  | append_singleton xs r ih =>
    have hof : ofType type (xs ++ [r]) = ofType type xs ++ ofType type [r] :=
      List.filter_append _ _
    rw [countByType_append, hof, List.length_append, ← ih]
    by_cases htype : r.type.name = type
    · rw [htype, Dict.find?_update_self]
      simp [ofType, htype]
    · rw [Dict.find?_update_of_ne htype]
      simp [ofType, htype]

theorem count_eq_of_mem {xs : List Resource} {entry : String × Nat}
    (h : entry ∈ countByType xs) : entry.2 = (ofType entry.1 xs).length := by
  have hfind := Dict.find?_of_mem (countByType_ascending xs).nodup_keys h
  rw [← countByType_find?, hfind]
  rfl

theorem mem_keys_countByType {type : String} {xs : List Resource} :
    type ∈ (countByType xs).keys ↔ ∃ r ∈ xs, r.type.name = type := by
  induction xs using List.reverseRecOn with
  | nil => simp [countByType, Dict.keys]
  | append_singleton xs r ih =>
    rw [countByType_append, Dict.update, Dict.mem_keys_insert, ih]
    simp [or_comm, eq_comm]

theorem countByType_sum (xs : List Resource) : ((countByType xs).map (·.2)).sum = xs.length := by
  induction xs using List.reverseRecOn with
  | nil => rfl
  | append_singleton xs r ih =>
    rw [countByType_append, Dict.sum_increment (countByType_ascending xs), ih,
      List.length_append, List.length_singleton]

end Counts

end CloudInventory.Inventory
