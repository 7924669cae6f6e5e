import Mathlib.Data.List.Induction
import Mathlib.Data.List.Perm.Basic

/-! Lists that change at one position, and lists of entries that belong to numbered owners. -/

namespace CloudInventory

theorem mem_of_mem_modify {α : Type} {f : α → α} {l : List α} {k : Nat} {a : α}
    (h : a ∈ l.modify k f) : a ∈ l ∨ ∃ b, l[k]? = some b ∧ a = f b := by
  obtain ⟨j, hj⟩ := List.mem_iff_getElem?.mp h
  rw [List.getElem?_modify] at hj
  cases hb : l[j]? with
  | none => simp [hb] at hj
  | some b =>
    simp only [hb, Option.map_eq_map, Option.map_some, Option.some.injEq] at hj
    by_cases hk : k = j
    · subst hk
      exact .inr ⟨b, hb, by simpa using hj.symm⟩
    · exact .inl (by simpa [← hj, hk] using List.mem_of_getElem? hb)

theorem map_modify {α β : Type} {f : α → α} {g : α → β} {h : β → β} (hf : ∀ a, g (f a) = h (g a))
    (l : List α) (k : Nat) : (l.modify k f).map g = (l.map g).modify k h := by
  apply List.ext_getElem?
  intro j
  simp only [List.getElem?_map, List.getElem?_modify]
  by_cases hk : k = j <;> simp [hk, Function.comp_def, hf]

theorem map_modify_of_eq {α β : Type} {f : α → α} {g : α → β} (hf : ∀ a, g (f a) = g a)
    (l : List α) (k : Nat) : (l.modify k f).map g = l.map g := by
  rw [map_modify (h := id) hf, List.modify_id]

theorem cons_eraseIdx_perm {α : Type} {l : List α} {k : Nat} {a : α} (h : l[k]? = some a) :
    (a :: l.eraseIdx k).Perm l := by
  obtain ⟨hk, rfl⟩ := List.getElem?_eq_some_iff.mp h
  exact List.getElem_cons_eraseIdx_perm hk

theorem exists_eq_append_cons {α : Type} {l : List α} {k : Nat} {a : α} (h : l[k]? = some a) :
    ∃ xs ys, l = xs ++ a :: ys ∧ xs.length = k := by
  obtain ⟨hk, rfl⟩ := List.getElem?_eq_some_iff.mp h
  refine ⟨l.take k, l.drop (k + 1), ?_, List.length_take_of_le (Nat.le_of_lt hk)⟩
  rw [List.getElem_cons_drop, List.take_append_drop]

theorem modify_append_cons {α : Type} (f : α → α) (xs ys : List α) (a : α) :
    (xs ++ a :: ys).modify xs.length f = xs ++ f a :: ys := by
  induction xs with
  | nil => rfl
  | cons x xs ih => simp [ih]

theorem filterMap_getElem?_range {α : Type} (l : List α) :
    (List.range l.length).filterMap (l[·]?) = l := by
  induction l using List.reverseRecOn with
  | nil => rfl
  | append_singleton l a ih =>
    have hl : (List.range l.length).filterMap ((l ++ [a])[·]?) =
        (List.range l.length).filterMap (l[·]?) := by
      apply List.filterMap_congr
      intro n hn
      exact List.getElem?_append_left (List.mem_range.mp hn)
    simp [List.range_succ, hl, ih]

def ownedBy {β : Type} (i : Nat) (xs : List (Nat × β)) : List β :=
  xs.filterMap fun x => if x.1 = i then some x.2 else none

section OwnedBy

variable {β : Type} {i : Nat}

@[simp] theorem ownedBy_nil : ownedBy i ([] : List (Nat × β)) = [] := rfl

@[simp] theorem ownedBy_cons (x : Nat × β) (xs : List (Nat × β)) :
    ownedBy i (x :: xs) = if x.1 = i then x.2 :: ownedBy i xs else ownedBy i xs := by
  by_cases h : x.1 = i <;> simp [ownedBy, h]

@[simp] theorem ownedBy_append (xs ys : List (Nat × β)) :
    ownedBy i (xs ++ ys) = ownedBy i xs ++ ownedBy i ys := List.filterMap_append

theorem ownedBy_map_mk (i : Nat) (xs : List β) : ownedBy i (xs.map (i, ·)) = xs := by
  induction xs with
  | nil => rfl
  | cons x xs ih => simp [ih]

theorem ownedBy_perm {xs ys : List (Nat × β)} (h : xs.Perm ys) :
    (ownedBy i xs).Perm (ownedBy i ys) := h.filterMap _

theorem mem_ownedBy {x : Nat × β} {xs : List (Nat × β)} (h : x ∈ xs) : x.2 ∈ ownedBy x.1 xs :=
  List.mem_filterMap.mpr ⟨x, h, if_pos rfl⟩

theorem ownedBy_eq_nil {xs : List (Nat × β)} (h : ∀ x ∈ xs, x.1 ≠ i) : ownedBy i xs = [] :=
  List.filterMap_eq_nil_iff.mpr fun x hx => if_neg (h x hx)

theorem ownedBy_filter {p : Nat → Bool} (h : p i = true) (xs : List (Nat × β)) :
    ownedBy i (xs.filter fun x => p x.1) = ownedBy i xs := by
  induction xs with
  | nil => rfl
  | cons x xs ih =>
    by_cases hx : x.1 = i
    · simp [hx, h, ih]
    · by_cases hp : p x.1 = true <;> simp [hx, hp, ih]

theorem count_ownedBy [DecidableEq β] (x : Nat × β) (xs : List (Nat × β)) :
    (ownedBy x.1 xs).count x.2 = xs.count x := by
  induction xs with
  | nil => rfl
  | cons y ys ih =>
    by_cases hy : y.1 = x.1
    · have hsame : (y == x) = (y.2 == x.2) := by
        rw [Bool.eq_iff_iff, beq_iff_eq, beq_iff_eq, Prod.ext_iff]
        exact and_iff_right hy
      simp [hy, List.count_cons, ih, hsame]
    · have hne : y ≠ x := fun h => hy (congrArg Prod.fst h)
      simp [hy, List.count_cons_of_ne hne, ih]

theorem perm_of_ownedBy {xs ys : List (Nat × β)}
    (h : ∀ i, (ownedBy i xs).Perm (ownedBy i ys)) : xs.Perm ys := by
  classical
  refine List.perm_iff_count.mpr fun x => ?_
  rw [← count_ownedBy x xs, ← count_ownedBy x ys]
  exact (h x.1).count_eq x.2

section Ranks

variable {γ : Type} {e : γ → Nat × β} {l : List γ} {k : Nat} {c : γ}

/-- The place of an entry among those of its owner. -/
def rankOf (i : Nat) (e : γ → Nat × β) (l : List γ) (k : Nat) : Nat :=
  (ownedBy i ((l.take k).map e)).length

theorem ownedBy_getElem?_rankOf (h : l[k]? = some c) (hc : (e c).1 = i) :
    (ownedBy i (l.map e))[rankOf i e l k]? = some (e c).2 := by
  obtain ⟨xs, ys, rfl, rfl⟩ := exists_eq_append_cons h
  simp [rankOf, hc]

theorem ownedBy_eraseIdx (h : l[k]? = some c) (hc : (e c).1 = i) :
    ownedBy i ((l.eraseIdx k).map e) = (ownedBy i (l.map e)).eraseIdx (rankOf i e l k) := by
  obtain ⟨xs, ys, rfl, rfl⟩ := exists_eq_append_cons h
  simp [rankOf, hc, List.eraseIdx_append_of_length_le]

theorem ownedBy_eraseIdx_of_ne (h : l[k]? = some c) (hc : (e c).1 ≠ i) :
    ownedBy i ((l.eraseIdx k).map e) = ownedBy i (l.map e) := by
  obtain ⟨xs, ys, rfl, rfl⟩ := exists_eq_append_cons h
  simp [hc, List.eraseIdx_append_of_length_le]

theorem ownedBy_modify {f : γ → γ} {g : β → β} (h : l[k]? = some c) (hc : (e c).1 = i)
    (hf : e (f c) = (i, g (e c).2)) :
    ownedBy i ((l.modify k f).map e) = (ownedBy i (l.map e)).modify (rankOf i e l k) g := by
  obtain ⟨xs, ys, rfl, rfl⟩ := exists_eq_append_cons h
  have hrank : rankOf i e (xs ++ c :: ys) xs.length = (ownedBy i (xs.map e)).length := by
    simp [rankOf]
  rw [hrank, modify_append_cons]
  simp only [List.map_append, List.map_cons, ownedBy_append, ownedBy_cons, hf, hc, if_true]
  exact (modify_append_cons g _ _ _).symm

theorem ownedBy_modify_of_ne {f : γ → γ} (h : l[k]? = some c) (hc : (e c).1 ≠ i)
    (hf : (e (f c)).1 = (e c).1) :
    ownedBy i ((l.modify k f).map e) = ownedBy i (l.map e) := by
  obtain ⟨xs, ys, rfl, rfl⟩ := exists_eq_append_cons h
  simp [modify_append_cons, hc, hf]

end Ranks

end OwnedBy

end CloudInventory
