import CloudInventory.Proofs.Pool.Phase
import Mathlib.Algebra.GroupWithZero.Nat

/-! The work that a pool has before it: the steps of its active jobs, the endings that no wait has
taken in, and its cancellation. Every step of a job leaves less of it. -/

namespace CloudInventory

section Sums

variable {α : Type} {l : List α} {k : Nat} {f : α → α} {g : α → Nat}

theorem sum_modify {a : α} (h : l[k]? = some a) :
    ((l.modify k f).map g).sum + g a = (l.map g).sum + g (f a) := by
  induction l generalizing k with
  | nil => cases h
  | cons b l ih =>
    cases k with
    | zero =>
      obtain rfl := Option.some.inj h
      simp only [List.modify_zero_cons, List.map_cons, List.sum_cons]
      omega
    | succ k =>
      have hl := ih h
      simp only [List.modify_succ_cons, List.map_cons, List.sum_cons]
      omega

theorem sum_modify_le {c : Nat} (h : ∀ a, g (f a) ≤ g a + c) :
    ((l.modify k f).map g).sum ≤ (l.map g).sum + c := by
  cases hk : l[k]? with
  | none =>
    rw [List.modify_eq_self (List.getElem?_eq_none_iff.mp hk)]
    exact Nat.le_add_right _ _
  | some a =>
    have hsum := sum_modify (f := f) (g := g) hk
    have ha := h a
    omega

theorem sum_eraseIdx {a : α} (h : l[k]? = some a) :
    ((l.eraseIdx k).map g).sum + g a = (l.map g).sum := by
  have hsum := ((cons_eraseIdx_perm h).map g).sum_nat
  simp only [List.map_cons, List.sum_cons] at hsum
  omega

end Sums

def Runner.pending (r : Runner α) : Nat := r.endings.length - r.joined

namespace Pool

variable {α : Type} {i k : Nat} {p : Pool α} {a : Active α}

/-- An active job has its steps, and its ending to be taken in. -/
def work (p : Pool α) : Nat :=
  (p.active.map fun a => a.stepsLeft + 1).sum + (p.runners.map Runner.pending).sum +
    (!p.cancelled).toNat

theorem work_modifyRunner {f : Runner α → Runner α} (hf : ∀ r, (f r).pending ≤ r.pending) :
    (p.modifyRunner i f).work ≤ p.work := by
  have hsum := sum_modify_le (l := p.runners) (k := i) (c := 0) hf
  simp only [work, modifyRunner]
  omega

theorem work_moveTo (ha : p.active[k]? = some a) (stage : Stage) :
    (p.moveTo k stage).work + a.stepsLeft =
      p.work + ({ a with stage := stage } : Active α).stepsLeft := by
  have hsum := sum_modify (f := fun a : Active α => { a with stage := stage })
    (g := fun a => a.stepsLeft + 1) ha
  simp only [work, moveTo]
  omega

theorem work_release (ha : p.active[k]? = some a) : (p.release k a).work < p.work := by
  have hactive := sum_eraseIdx (g := fun a => a.stepsLeft + 1) ha
  have hrunners := sum_modify_le (l := p.runners) (k := a.owner) (c := 1)
    (f := Runner.ended a.job.ending) (g := Runner.pending) fun r => by
      simp only [Runner.pending, Runner.ended, List.length_append, List.length_singleton]
      omega
  have hsteps := a.stepsLeft_pos
  simp only [work, release, modifyRunner]
  omega

theorem work_advance (ha : p.active[k]? = some a) : (p.advance k).work < p.work := by
  rcases advance_cases ha .empty with ⟨f, stage, hadv, hleft, hf, _⟩ | ⟨_, hadv, _⟩
  · have ha' : (p.modifyRunner a.owner f).active[k]? = some a := ha
    have hmove := work_moveTo ha' stage
    have hrunner := work_modifyRunner (p := p) (i := a.owner) (f := f) fun r => by
      simp [Runner.pending, (hf r).2.1, (hf r).2.2.1]
    rw [hadv]
    omega
  · rw [hadv]
    exact work_release ha

theorem work_join {r : Runner α} (hr : p.runners[i]? = some r) {x : Ending α}
    (hx : r.endings[r.joined]? = some x) : (p.modifyRunner i Runner.join).work < p.work := by
  have hlt := (List.getElem?_eq_some_iff.mp hx).1
  have hsum := sum_modify (f := Runner.join) (g := Runner.pending) hr
  have hjoin : r.join.pending + 1 = r.pending := by
    cases x <;> simp only [Runner.pending, Runner.join, hx, Runner.record, Runner.mark] <;> omega
  simp only [work, modifyRunner]
  omega

theorem work_addRunner (p : Pool α) : p.addRunner.work = p.work := by
  simp [work, addRunner, Runner.pending, Runner.new]

theorem work_accept (i : Nat) (job : Job α) (p : Pool α) : (p.accept i job).work ≤ p.work + 4 := by
  have hrunners := sum_modify_le (l := p.runners) (k := i) (c := 0) (f := Runner.accepted)
    (g := Runner.pending) fun r => Nat.le_refl _
  have hsteps := (⟨i, job, .running⟩ : Active α).stepsLeft_le
  simp only [work, accept, modifyRunner, List.map_append, List.sum_append, List.map_singleton,
    List.sum_singleton]
  omega

theorem work_cancel (p : Pool α) : p.cancel = p ∨ p.cancel.work < p.work := by
  cases hc : p.cancelled with
  | true =>
    left
    rw [cancel, ← hc]
  | false => exact .inr (by simp [work, cancel, hc])

theorem work_await (i : Nat) (p : Pool α) : (p.await i).work ≤ p.work := by
  rcases await_cases i p with
    ⟨ha, _⟩ | ⟨r, hr, _, ⟨_, _, ha⟩ | ⟨_, x, hx, _, ha⟩ | ⟨_, _, _, _, ha⟩⟩
  · exact Nat.le_of_eq (by rw [ha])
  · rw [ha]
    exact work_modifyRunner fun _ => Nat.le_refl _
  · rw [ha]
    exact Nat.le_of_lt (work_join hr hx)
  · rw [ha]
    exact work_modifyRunner fun _ => Nat.le_refl _

end Pool

end CloudInventory
