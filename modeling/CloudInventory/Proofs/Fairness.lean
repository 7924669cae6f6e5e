import Mathlib.Order.Lattice.Nat
import Mathlib.Order.WellFounded

/-! Fair schedules come to an end. Each step of a sequence changes nothing or lowers a rank; where
some step that would change something comes again and again, the end is reached. -/

namespace CloudInventory

/-- A sequence whose changes all lower a rank comes to an end if it does not stand still before. -/
theorem exists_of_lowering {α β : Type} [Preorder β] [WellFoundedLT β] {P : α → Prop}
    {s : Nat → α} (rank : α → β)
    (hstep : ∀ n, ¬P (s n) → P (s (n + 1)) ∨ s (n + 1) = s n ∨ rank (s (n + 1)) < rank (s n))
    (hmoves : ∀ n, ¬P (s n) → ∃ k ≥ n, s (k + 1) ≠ s n) : ∃ n, P (s n) := by
  by_contra hnone
  simp only [not_exists] at hnone
  have hlower : ∀ n k, n ≤ k → s k = s n ∨ rank (s k) < rank (s n) := by
    intro n k hnk
    induction k, hnk using Nat.le_induction with
    | base => exact .inl rfl
    | succ k _ ih =>
      rcases (hstep k (hnone k)).resolve_left (hnone (k + 1)) with hsame | hless
      · rwa [hsame]
      · exact .inr (ih.elim (fun hk => hk ▸ hless) hless.trans)
  -- whatever the rank at some point is, there is a later point of a lower rank
  have hfalse : ∀ b n, rank (s n) = b → False := by
    intro b
    induction b using WellFoundedLT.induction with
    | ind b ih =>
      rintro n rfl
      obtain ⟨k, hk, hmove⟩ := hmoves n (hnone n)
      exact ih _ ((hlower n (k + 1) (by omega)).resolve_left hmove) (k + 1) rfl
  exact hfalse _ 0 rfl

/-- A choice that a schedule makes again and again. -/
def Recurs {γ : Type} (σ : Nat → γ) (c : γ) : Prop := ∀ n, ∃ k ≥ n, σ k = c

/-- A schedule that makes the same choices in the same order over and over. -/
def cycle {γ : Type} (c₀ : γ) (cs : List γ) (k : Nat) : γ := (cs[k % cs.length]?).getD c₀

theorem recurs_cycle {γ : Type} {c c₀ : γ} {cs : List γ} (hc : c ∈ cs) :
    Recurs (cycle c₀ cs) c := by
  intro k
  obtain ⟨j, hj, rfl⟩ := List.mem_iff_getElem.mp hc
  have hpos : 0 < cs.length := Nat.zero_lt_of_lt hj
  refine ⟨k * cs.length + j, Nat.le_add_right_of_le (Nat.le_mul_of_pos_right k hpos), ?_⟩
  simp [cycle, Nat.mod_eq_of_lt hj, hj]

/-- Where a recurring choice changes what is seen of every state that looks like this one, the
schedule goes on from here. -/
theorem exists_of_fair {α β γ δ : Type} [Preorder β] [WellFoundedLT β] (step : γ → α → α)
    (view : α → δ) (rank : δ → β) {P : δ → Prop} {σ : Nat → γ} {s : Nat → α}
    (hs : ∀ n, s (n + 1) = step (σ n) (s n))
    (hstep : ∀ n, ¬P (view (s n)) → P (view (s (n + 1))) ∨ view (s (n + 1)) = view (s n) ∨
      rank (view (s (n + 1))) < rank (view (s n)))
    (hmoves : ∀ n, ¬P (view (s n)) → ∃ c, Recurs σ c ∧
      ∀ a, view a = view (s n) → view (step c a) ≠ view (s n)) : ∃ n, P (view (s n)) := by
  refine exists_of_lowering (s := fun n => view (s n)) rank hstep fun n hn => ?_
  by_contra hstill
  simp only [not_exists, not_and, not_not] at hstill
  obtain ⟨c, hrecurs, hmoves⟩ := hmoves n hn
  obtain ⟨j, hj, rfl⟩ := hrecurs n
  have hview : view (s j) = view (s n) := by
    cases Nat.eq_or_lt_of_le hj with
    | inl hsame => rw [hsame]
    | inr hlt =>
      obtain ⟨k, rfl⟩ := Nat.exists_eq_add_of_lt hlt
      exact hstill (n + k) (Nat.le_add_right n k)
  exact hmoves (s j) hview (hs j ▸ hstill j hj)

end CloudInventory
