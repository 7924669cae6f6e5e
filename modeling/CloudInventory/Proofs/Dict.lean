import CloudInventory.Dict
import Mathlib.Algebra.GroupWithZero.Nat
import Mathlib.Data.List.Basic

/-! Laws of dictionaries: what is found under a key after an insertion, that insertions under two
keys may change places, and that two dictionaries in ascending order with the same entries are the
same list. -/

namespace CloudInventory.Dict

variable {α β : Type} {key other : String} {a : α} {d d' : Dict α}

theorem lt_of_not_lt_of_ne (h : ¬key < other) (hne : key ≠ other) : other < key := by
  by_contra hlt
  exact hne (String.le_antisymm (String.not_lt.mp hlt) (String.not_lt.mp h))

theorem find?_insert_self (key : String) (a : α) (d : Dict α) :
    find? key (insert key a d) = some a := by
  induction d with
  | nil => simp [insert, find?]
  | cons e rest ih =>
    obtain ⟨k, b⟩ := e
    by_cases hlt : key < k
    · simp [insert, hlt, find?]
    · by_cases hk : key = k
      · simp [insert, hk, find?]
      · have hne : k ≠ key := Ne.symm hk
        simp [insert, hlt, hk, find?, hne, ih]

theorem find?_insert_of_ne (h : key ≠ other) (a : α) (d : Dict α) :
    find? other (insert key a d) = find? other d := by
  induction d with
  | nil => simp [insert, find?, h]
  | cons e rest ih =>
    obtain ⟨k, b⟩ := e
    by_cases hlt : key < k
    · simp [insert, hlt, find?, h]
    · by_cases hk : key = k
      · subst hk
        simp [insert, find?, h]
      · simp [insert, hlt, hk, find?, ih]

theorem insertIfAbsent_of_none (h : find? key d = none) (a : α) :
    insertIfAbsent key a d = insert key a d := by
  simp [insertIfAbsent, contains, h]

theorem insertIfAbsent_of_some (h : find? key d = some a) (b : α) :
    insertIfAbsent key b d = d := by
  simp [insertIfAbsent, contains, h]

theorem filter_insert (key : String) (a : α) (d : Dict α) :
    (insert key a d).filter (·.1 ≠ key) = d.filter (·.1 ≠ key) := by
  induction d with
  | nil => simp [insert]
  | cons e rest ih =>
    obtain ⟨k, b⟩ := e
    by_cases hlt : key < k
    · rw [insert, if_pos hlt, List.filter_cons_of_neg (by simp)]
    · by_cases hk : key = k
      · subst hk
        simp [insert]
      · have hne : k ≠ key := Ne.symm hk
        simp only [insert, if_neg hlt, if_neg hk]
        rw [List.filter_cons_of_pos (by simpa using hne), ih,
          List.filter_cons_of_pos (by simpa using hne)]

theorem insert_of_lt (h : key < other) (a b : α) (d : Dict α) :
    insert key a ((other, b) :: d) = (key, a) :: (other, b) :: d := by
  rw [insert, if_pos h]

theorem insert_of_gt (h : key < other) (a b : α) (d : Dict α) :
    insert other b ((key, a) :: d) = (key, a) :: insert other b d := by
  rw [insert, if_neg (String.lt_asymm h), if_neg (String.ne_of_lt h).symm]

theorem insert_comm_of_lt (h : key < other) (a b : α) (d : Dict α) :
    insert key a (insert other b d) = insert other b (insert key a d) := by
  induction d with
  | nil => rw [insert, insert, insert_of_lt h, insert_of_gt h, insert]
  | cons e rest ih =>
    obtain ⟨k, c⟩ := e
    by_cases hlt : key < k
    · -- The smaller key goes to the front, whichever of the others then comes first.
      rw [insert_of_lt hlt, insert_of_gt h]
      by_cases hother : other < k
      · rw [insert_of_lt hother, insert_of_lt h]
      · by_cases hsame : other = k
        · rw [insert, if_neg hother, if_pos hsame, insert_of_lt h]
        · rw [insert, if_neg hother, if_neg hsame, insert_of_lt hlt]
    · by_cases hsame : key = k
      · subst hsame
        rw [insert_of_gt h, insert, if_neg hlt, if_pos rfl, insert, if_neg hlt, if_pos rfl,
          insert_of_gt h]
      · have hafter := lt_of_not_lt_of_ne hlt hsame
        rw [insert_of_gt (String.lt_trans hafter h), insert_of_gt hafter, ih, insert_of_gt hafter,
          insert_of_gt (String.lt_trans hafter h)]

theorem insert_comm (h : key ≠ other) (a b : α) (d : Dict α) :
    insert key a (insert other b d) = insert other b (insert key a d) := by
  by_cases hlt : key < other
  · exact insert_comm_of_lt hlt a b d
  · exact (insert_comm_of_lt (lt_of_not_lt_of_ne hlt h) b a d).symm

theorem find?_update_self (key : String) (initial : α) (f : α → α) (d : Dict α) :
    find? key (update key initial f d) = some (f ((find? key d).getD initial)) :=
  find?_insert_self _ _ _

theorem find?_update_of_ne (h : key ≠ other) (initial : α) (f : α → α) (d : Dict α) :
    find? other (update key initial f d) = find? other d :=
  find?_insert_of_ne h _ _

theorem find?_eq_none_of_not_mem (h : key ∉ d.map (·.1)) : find? key d = none := by
  induction d with
  | nil => rfl
  | cons e rest ih =>
    obtain ⟨hne, hrest⟩ := not_or.mp (mt List.mem_cons.mpr h)
    simp [find?, Ne.symm hne, ih hrest]

theorem find?_of_mem (h : (d.map (·.1)).Nodup) {e : String × α} (he : e ∈ d) :
    find? e.1 d = some e.2 := by
  induction d with
  | nil => cases he
  | cons c rest ih =>
    obtain ⟨hfirst, hrest⟩ := List.nodup_cons.mp h
    rcases List.mem_cons.mp he with rfl | he
    · simp [find?]
    · have hne : c.1 ≠ e.1 := fun hsame =>
        hfirst (List.mem_map.mpr ⟨e, he, hsame.symm⟩)
      simp [find?, hne, ih hrest he]

theorem mem_of_find? (h : find? key d = some a) : (key, a) ∈ d := by
  induction d with
  | nil => cases h
  | cons e rest ih =>
    obtain ⟨k, b⟩ := e
    by_cases hk : k = key
    · obtain rfl : b = a := by simpa [find?, hk] using h
      rw [hk]
      exact List.mem_cons_self
    · rw [find?, if_neg hk] at h
      exact List.mem_cons_of_mem _ (ih h)

theorem find?_mapValues (f : α → β) (key : String) (d : Dict α) :
    find? key (mapValues f d) = (find? key d).map f := by
  induction d with
  | nil => rfl
  | cons e rest ih =>
    simp only [mapValues, List.map_cons, find?] at ih ⊢
    split
    · rfl
    · exact ih

theorem map_fst_mapValues (f : α → β) (d : Dict α) : (mapValues f d).map (·.1) = d.map (·.1) := by
  simp [mapValues, Function.comp_def]

theorem find?_filter (h : key ≠ other) (d : Dict α) :
    find? key (d.filter (·.1 ≠ other)) = find? key d := by
  induction d with
  | nil => rfl
  | cons e rest ih =>
    by_cases hother : e.1 = other
    · have hne : e.1 ≠ key := fun hkey => h (hkey.symm.trans hother)
      rw [List.filter_cons_of_neg (by simpa using hother), ih, find?, if_neg hne]
    · rw [List.filter_cons_of_pos (by simpa using hother), find?, find?, ih]

theorem find?_append (key : String) (d d' : Dict α) :
    find? key (d ++ d') = (find? key d).or (find? key d') := by
  induction d with
  | nil => rfl
  | cons e rest ih =>
    by_cases hkey : e.1 = key
    · simp only [List.cons_append, find?, if_pos hkey, Option.some_or]
    · simp only [List.cons_append, find?, if_neg hkey, ih]

theorem find?_isSome_iff : (find? key d).isSome ↔ key ∈ d.map (·.1) := by
  induction d with
  | nil => simp [find?]
  | cons e rest ih =>
    by_cases hkey : e.1 = key
    · simp [find?, hkey]
    · have hne : ¬key = e.1 := Ne.symm hkey
      simp only [find?, if_neg hkey, List.map_cons, List.mem_cons, hne, false_or, ih]

theorem mem_keys_insert : other ∈ (insert key a d).keys ↔ other = key ∨ other ∈ d.keys := by
  simp only [keys, ← find?_isSome_iff]
  by_cases h : key = other
  · subst h
    simp [find?_insert_self]
  · simp [find?_insert_of_ne h, Ne.symm h]

theorem find?_perm (h : d.Perm d') (hkeys : (d.map (·.1)).Nodup) (key : String) :
    find? key d = find? key d' := by
  have hkeys' : (d'.map (·.1)).Nodup := ((h.map _).nodup_iff).mp hkeys
  by_cases hmem : key ∈ d.map (·.1)
  · obtain ⟨e, he, rfl⟩ := List.mem_map.mp hmem
    rw [find?_of_mem hkeys he, find?_of_mem hkeys' (h.subset he)]
  · have hmem' : key ∉ d'.map (·.1) := fun hm => hmem ((h.map _).mem_iff.mpr hm)
    rw [find?_eq_none_of_not_mem hmem, find?_eq_none_of_not_mem hmem']

section Ascending

instance (d : Dict α) : Decidable d.Ascending :=
  inferInstanceAs (Decidable (List.Pairwise (fun a b => a.1 < b.1) d))

theorem mem_insert {e : String × α} (h : e ∈ insert key a d) : e = (key, a) ∨ e ∈ d := by
  induction d with
  | nil => simpa [insert] using h
  | cons c rest ih =>
    obtain ⟨k, b⟩ := c
    by_cases hlt : key < k
    · simpa [insert, hlt] using h
    · by_cases hk : key = k
      · subst hk
        simp only [insert, hlt, if_false, if_true, List.mem_cons] at h
        exact h.imp_right (List.mem_cons_of_mem _)
      · simp only [insert, hlt, hk, if_false, List.mem_cons] at h
        rcases h with rfl | h
        · exact .inr List.mem_cons_self
        · exact (ih h).imp_right (List.mem_cons_of_mem _)

theorem Ascending.insert (h : Ascending d) (key : String) (a : α) :
    Ascending (Dict.insert key a d) := by
  induction d with
  | nil => exact List.pairwise_singleton _ _
  | cons c rest ih =>
    obtain ⟨k, b⟩ := c
    obtain ⟨hfirst, hrest⟩ := List.pairwise_cons.mp h
    by_cases hlt : key < k
    · simp only [Dict.insert, hlt, if_true]
      refine List.pairwise_cons.mpr ⟨fun e he => ?_, h⟩
      rcases List.mem_cons.mp he with rfl | he
      · exact hlt
      · exact String.lt_trans hlt (hfirst e he)
    · by_cases hk : key = k
      · subst hk
        simp only [Dict.insert, hlt, if_false, if_true]
        exact List.pairwise_cons.mpr ⟨hfirst, hrest⟩
      · simp only [Dict.insert, hlt, hk, if_false]
        refine List.pairwise_cons.mpr ⟨fun e he => ?_, ih hrest⟩
        rcases mem_insert he with rfl | he
        · exact lt_of_not_lt_of_ne hlt hk
        · exact hfirst e he

theorem Ascending.update (h : Ascending d) (key : String) (initial : α) (f : α → α) :
    Ascending (Dict.update key initial f d) := h.insert key _

theorem find?_eq_none (h : ∀ e ∈ d, key < e.1) : find? key d = none := by
  induction d with
  | nil => rfl
  | cons c rest ih =>
    have hne : c.1 ≠ key := (String.ne_of_lt (h c List.mem_cons_self)).symm
    simp [find?, hne, ih fun e he => h e (List.mem_cons_of_mem _ he)]

/-- All items of a dictionary of lists, each under its key: those under one key are its list. -/
theorem filter_flatMap {d : Dict (List α)} (h : Ascending d) (key : String) :
    ((d.flatMap fun e => e.2.map (e.1, ·)).filter (·.1 = key)).map (·.2) =
      (find? key d).getD [] := by
  induction d with
  | nil => rfl
  | cons e rest ih =>
    obtain ⟨k, items⟩ := e
    obtain ⟨hfirst, hrest⟩ := List.pairwise_cons.mp h
    rw [List.flatMap_cons, List.filter_append, List.map_append, ih hrest]
    by_cases hk : k = key
    · subst hk
      simp [find?, find?_eq_none hfirst, List.filter_map, Function.comp_def]
    · simp [find?, hk, List.filter_map, Function.comp_def]

theorem Ascending.ext (h : Ascending d) (h' : Ascending d')
    (hfind : ∀ key, find? key d = find? key d') : d = d' := by
  induction d generalizing d' with
  | nil =>
    cases d' with
    | nil => rfl
    | cons c rest => simpa [find?] using hfind c.1
  | cons c rest ih =>
    obtain ⟨k, b⟩ := c
    obtain ⟨hfirst, hrest⟩ := List.pairwise_cons.mp h
    cases d' with
    | nil => simpa [find?] using hfind k
    | cons c' rest' =>
      obtain ⟨k', b'⟩ := c'
      obtain ⟨hfirst', hrest'⟩ := List.pairwise_cons.mp h'
      have hk : k = k' := by
        by_contra hne
        rcases Decidable.em (k < k') with hlt | hlt
        · have hnone : find? k ((k', b') :: rest') = none := find?_eq_none fun e he => by
            rcases List.mem_cons.mp he with rfl | he
            · exact hlt
            · exact String.lt_trans hlt (hfirst' e he)
          rw [← hfind k] at hnone
          simp [find?] at hnone
        · have hlt' := lt_of_not_lt_of_ne hlt hne
          have hnone : find? k' ((k, b) :: rest) = none := find?_eq_none fun e he => by
            rcases List.mem_cons.mp he with rfl | he
            · exact hlt'
            · exact String.lt_trans hlt' (hfirst e he)
          rw [hfind k'] at hnone
          simp [find?] at hnone
      subst hk
      have hb : b = b' := by simpa [find?] using hfind k
      subst hb
      refine congrArg _ (ih hrest hrest' fun key => ?_)
      by_cases hkey : k = key
      · subst hkey
        rw [find?_eq_none hfirst, find?_eq_none hfirst']
      · simpa [find?, hkey] using hfind key

end Ascending

theorem find?_foldl_insert {entries : List (String × α)} (h : (entries.map (·.1)).Nodup)
    (key : String) (d : Dict α) :
    find? key (entries.foldl (fun d e => insert e.1 e.2 d) d) =
      (find? key entries).or (find? key d) := by
  induction entries generalizing d with
  | nil => rfl
  | cons e rest ih =>
    obtain ⟨k, b⟩ := e
    obtain ⟨hfirst, hrest⟩ := List.nodup_cons.mp h
    rw [List.foldl_cons, ih hrest]
    by_cases hk : k = key
    · subst hk
      have hnone : find? k rest = none := find?_eq_none_of_not_mem hfirst
      simp [hnone, find?, find?_insert_self]
    · rw [find?_insert_of_ne hk]
      simp [find?, hk]

/-- Where no key is given twice, entries are found as they were given. -/
theorem find?_ofList {entries : List (String × α)} (h : (entries.map (·.1)).Nodup) (key : String) :
    find? key (ofList entries) = find? key entries := by
  rw [ofList, find?_foldl_insert h, find?, Option.or_none]

theorem ofList_ascending (entries : List (String × α)) : Ascending (ofList entries) := by
  have hfold : ∀ d : Dict α, Ascending d →
      Ascending (entries.foldl (fun d e => insert e.1 e.2 d) d) := by
    induction entries with
    | nil => exact fun d h => h
    | cons e rest ih => exact fun d h => ih _ (h.insert e.1 e.2)
  exact hfold [] .nil

theorem Ascending.nodup_keys (h : Ascending d) : (d.map (·.1)).Nodup :=
  List.pairwise_map.mpr (h.imp fun hlt => String.ne_of_lt hlt)

theorem Ascending.ofList_eq (h : Ascending d) : ofList d = d :=
  (ofList_ascending d).ext h (find?_ofList h.nodup_keys)

theorem Ascending.mapValues (h : Ascending d) (f : α → β) : Ascending (d.mapValues f) :=
  List.pairwise_map.mpr h

/-- The order of entries is of no matter where no key is given twice. -/
theorem ofList_perm (h : d.Perm d') (hkeys : (d.map (·.1)).Nodup) : ofList d = ofList d' := by
  have hkeys' := ((h.map (·.1)).nodup_iff).mp hkeys
  refine (ofList_ascending d).ext (ofList_ascending d') fun key => ?_
  rw [find?_ofList hkeys, find?_ofList hkeys', find?_perm h hkeys]

/-- Counting one more under a key adds one to the sum of all counts. -/
theorem sum_increment {counts : Dict Nat} (h : Ascending counts) (key : String) :
    ((update key 0 (· + 1) counts).map (·.2)).sum = (counts.map (·.2)).sum + 1 := by
  induction counts with
  | nil => rfl
  | cons c rest ih =>
    obtain ⟨k, n⟩ := c
    obtain ⟨hfirst, hrest⟩ := List.pairwise_cons.mp h
    by_cases hlt : key < k
    · have hnone : find? key ((k, n) :: rest) = none := find?_eq_none fun e he => by
        rcases List.mem_cons.mp he with rfl | he
        · exact hlt
        · exact String.lt_trans hlt (hfirst e he)
      simp [update, hnone, insert, hlt]
      omega
    · by_cases hk : key = k
      · subst hk
        simp [update, find?, insert]
        omega
      · have hne : k ≠ key := Ne.symm hk
        have hsum := ih hrest
        simp only [update, find?, insert, hlt, hk, hne, if_false, List.map_cons,
          List.sum_cons] at hsum ⊢
        omega

end CloudInventory.Dict
