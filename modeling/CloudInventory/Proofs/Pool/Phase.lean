import CloudInventory.Proofs.Pool.Sound

/-! How the steps of a pool change the phases of its runners. Only the owner of a runner ends its
phase, and a runner that has closed stays closed. -/

namespace CloudInventory.Pool

variable {α : Type} {i j k : Nat} {p : Pool α}

@[simp] theorem phase?_moveTo {stage : Stage} : (p.moveTo k stage).phase? j = p.phase? j := rfl

@[simp] theorem phase?_release {a : Active α} : (p.release k a).phase? j =
    (p.modifyRunner a.owner (Runner.ended a.job.ending)).phase? j := rfl

theorem phase?_modifyRunner_of_ne {f : Runner α → Runner α} (h : i ≠ j) :
    (p.modifyRunner i f).phase? j = p.phase? j := by
  simp [phase?, modifyRunner, h]

theorem phase?_modifyRunner_of_keeps {f : Runner α → Runner α} (hf : ∀ r, (f r).phase = r.phase) :
    (p.modifyRunner i f).phase? j = p.phase? j := by
  by_cases h : i = j
  · subst h
    simp [phase?, modifyRunner, Function.comp_def, hf]
  · exact phase?_modifyRunner_of_ne h

theorem phase?_modifyRunner_inPhase {phase : Phase α} (h : i < p.runners.length) :
    (p.modifyRunner i (·.inPhase phase)).phase? i = some phase := by
  simp [phase?, modifyRunner, Runner.inPhase, List.getElem?_eq_getElem h]

theorem lt_of_phase?_eq_some {phase : Phase α} (h : p.phase? i = some phase) :
    i < p.runners.length := by
  obtain ⟨r, hr, _⟩ := Option.map_eq_some_iff.mp h
  exact (List.getElem?_eq_some_iff.mp hr).1

theorem settled?_eq_some {outcome : Except Error (List α)} :
    p.settled? i = some outcome ↔ p.phase? i = some (.settled outcome) := by
  cases hr : p.runners[i]? with
  | none => simp [settled?, phase?, hr]
  | some r => cases hp : r.phase <;> simp [settled?, phase?, hr, hp]

theorem phase?_addRunner (h : i < p.runners.length) : p.addRunner.phase? i = p.phase? i := by
  simp [phase?, addRunner, List.getElem?_append_left h]

@[simp] theorem phase?_addRunner_length :
    p.addRunner.phase? p.runners.length = some .collecting := by
  simp [phase?, addRunner, Runner.new]

@[simp] theorem phase?_accept (job : Job α) : (p.accept i job).phase? j = p.phase? j :=
  phase?_modifyRunner_of_keeps (p := p) fun _ => rfl

theorem phase?_startWait_of_ne (h : i ≠ j) : (p.startWait i).phase? j = p.phase? j :=
  phase?_modifyRunner_of_ne h

theorem phase?_drop_of_ne (h : i ≠ j) : (p.drop i).phase? j = p.phase? j :=
  phase?_modifyRunner_of_ne h

@[simp] theorem phase?_advance : (p.advance k).phase? j = p.phase? j := by
  cases ha : p.active[k]? with
  | none => simp [advance, ha]
  | some a =>
    rcases advance_cases ha .empty with ⟨f, stage, hadv, _, hf, _⟩ | ⟨_, hadv, _⟩
    · rw [hadv, phase?_moveTo, phase?_modifyRunner_of_keeps fun r => (hf r).1]
    · rw [hadv, phase?_release]
      exact phase?_modifyRunner_of_keeps (p := p) fun _ => rfl

theorem join_phase (r : Runner α) : r.join.phase = r.phase := by
  unfold Runner.join
  split <;> rfl

theorem phase?_await_of_ne (h : i ≠ j) : (p.await i).phase? j = p.phase? j := by
  rcases await_cases i p with ⟨ha, _⟩ | ⟨r, _, _, ⟨_, _, ha⟩ | ⟨_, _, _, _, ha⟩ | ⟨_, _, _, _, ha⟩⟩
  · rw [ha]
  all_goals rw [ha, phase?_modifyRunner_of_ne h]

/-- A wait goes on or settles; no other phase is touched by it. -/
theorem phase?_await (i : Nat) (p : Pool α) : (p.await i).phase? i = p.phase? i ∨
    p.phase? i = some .waiting ∧ ∃ outcome, (p.await i).phase? i = some (.settled outcome) := by
  rcases await_cases i p with ⟨ha, _⟩ | ⟨r, hr, hp, hcase⟩
  · exact .inl (by rw [ha])
  · have hlt := (List.getElem?_eq_some_iff.mp hr).1
    have hw : p.phase? i = some .waiting := by simp [phase?, hr, hp]
    rcases hcase with ⟨_, _, ha⟩ | ⟨_, _, _, _, ha⟩ | ⟨_, _, _, _, ha⟩
    · exact .inr ⟨hw, _, by rw [ha, phase?_modifyRunner_inPhase hlt]⟩
    · exact .inl (by rw [ha, phase?_modifyRunner_of_keeps join_phase])
    · exact .inr ⟨hw, _, by rw [ha, phase?_modifyRunner_inPhase hlt]⟩

theorem join_failed {r : Runner α} (h : r.failed = true) : r.join.failed = true := by
  unfold Runner.join
  split <;> simp [Runner.mark, h]

theorem act_runners {m : Act α} (hm : m ≠ .addRunner) (p : Pool α) :
    ∃ i f, (p.act m).runners = p.runners.modify i f ∧
      ∀ r, r.failed = true → (f r).failed = true := by
  have hnone : ∃ i f, p.runners = p.runners.modify i f ∧
      ∀ r : Runner α, r.failed = true → (f r).failed = true :=
    ⟨0, id, (List.modify_id 0 _).symm, fun _ => id⟩
  cases m with
  | addRunner => exact absurd rfl hm
  | accept i job => exact ⟨i, Runner.accepted, rfl, fun _ => id⟩
  | advance k =>
    simp only [act]
    cases ha : p.active[k]? with
    | none => simpa only [advance, ha] using hnone
    | some a =>
      rcases advance_cases ha .empty with ⟨f, stage, hadv, _, hf, _⟩ | ⟨_, hadv, _⟩
      · exact ⟨a.owner, f, by rw [hadv]; rfl, fun r => (hf r).2.2.2⟩
      · exact ⟨a.owner, Runner.ended a.job.ending, by rw [hadv]; rfl, fun _ => id⟩
  | startWait i => exact ⟨i, (·.inPhase .waiting), rfl, fun _ => id⟩
  | await i =>
    simp only [act]
    rcases await_cases i p with
      ⟨ha, _⟩ | ⟨r, _, _, ⟨_, _, ha⟩ | ⟨_, _, _, _, ha⟩ | ⟨_, _, _, _, ha⟩⟩
    · rwa [ha]
    · exact ⟨i, (·.inPhase (.settled (.error .cancelled))), by rw [ha]; rfl, fun _ => id⟩
    · exact ⟨i, Runner.join, by rw [ha]; rfl, fun _ => join_failed⟩
    · exact ⟨i, (·.inPhase (.settled r.outcome)), by rw [ha]; rfl, fun _ => id⟩
  | drop i => exact ⟨i, (·.inPhase .dropped), rfl, fun _ => id⟩
  | cancel => exact hnone

theorem length_runners_act {m : Act α} (hm : m ≠ .addRunner) :
    (p.act m).runners.length = p.runners.length := by
  obtain ⟨i, f, hrunners, _⟩ := act_runners hm p
  rw [hrunners, List.length_modify]

theorem hasFailed_act (m : Act α) (h : p.hasFailed i = true) : (p.act m).hasFailed i = true := by
  obtain ⟨r, hr, hfail⟩ := (Option.any_eq_true _ _).mp h
  by_cases hm : m = .addRunner
  · subst hm
    have hlt := (List.getElem?_eq_some_iff.mp hr).1
    simpa [act, addRunner, hasFailed, List.getElem?_append_left hlt] using h
  · obtain ⟨j, f, hrunners, hf⟩ := act_runners hm p
    rw [hasFailed, hrunners, List.getElem?_modify, hr]
    by_cases hij : j = i <;> simp [hij, hf, hfail]

@[simp] theorem cancelled_advance (k : Nat) (p : Pool α) :
    (p.advance k).cancelled = p.cancelled := by
  cases ha : p.active[k]? with
  | none => simp [advance, ha]
  | some a =>
    rcases advance_cases ha .empty with ⟨f, stage, hadv, _⟩ | ⟨_, hadv, _⟩
    all_goals rw [hadv]; rfl

@[simp] theorem cancelled_await (i : Nat) (p : Pool α) : (p.await i).cancelled = p.cancelled := by
  rcases await_cases i p with
    ⟨ha, _⟩ | ⟨_, _, _, ⟨_, _, ha⟩ | ⟨_, _, _, _, ha⟩ | ⟨_, _, _, _, ha⟩⟩
  all_goals rw [ha]; try rfl

theorem cancelled_act (m : Act α) (h : p.cancelled = true) : (p.act m).cancelled = true := by
  cases m with
  | advance k => exact (cancelled_advance k p).trans h
  | await j => exact (cancelled_await j p).trans h
  | cancel => rfl
  | _ => exact h

theorem isClosed_act (m : Act α) (h : p.isClosed i = true) : (p.act m).isClosed i = true := by
  simp only [isClosed, Bool.or_eq_true] at h ⊢
  exact h.imp (cancelled_act m) (hasFailed_act m)

theorem isClosed_of_act (m : Act α) (h : (p.act m).isClosed i = false) : p.isClosed i = false :=
  Bool.eq_false_iff.mpr fun hclosed => Bool.eq_false_iff.mp h (isClosed_act m hclosed)

theorem Log.accepted_note {m : Act α} (hm : ∀ i job, m ≠ .accept i job) (p : Pool α) (l : Log α) :
    (l.note m p).accepted = l.accepted := by
  cases m with
  | accept i job => exact absurd rfl (hm i job)
  | advance k =>
    cases ha : p.active[k]? with
    | none => simp [Log.note, Log.advanced, ha]
    | some a => cases hn : a.next <;> simp [Log.note, Log.advanced, ha, hn, Log.record, Log.finish]
  | await i =>
    cases hj : p.joins? i with
    | none => simp [Log.note, hj, Log.joined]
    | some x => cases x <;> simp [Log.note, hj, Log.joined, Log.record]
  | _ => rfl

end CloudInventory.Pool
