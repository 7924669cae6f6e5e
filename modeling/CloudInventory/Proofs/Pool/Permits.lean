import CloudInventory.Proofs.Pool.Submissions

/-! The permits of a pool. A move takes a permit for an accepted job, gives one back for a job
whose body has ended, or leaves all of them where they are, and a submission whose look has left
it in flight has found none. -/

namespace CloudInventory

variable {α : Type} {limit i k : Nat}

namespace Pool

@[simp] theorem holders_modifyRunner (p : Pool α) (f : Runner α → Runner α) :
    (p.modifyRunner i f).holders = p.holders := rfl

@[simp] theorem holders_moveTo (p : Pool α) (stage : Stage) :
    (p.moveTo k stage).holders = p.holders :=
  map_modify_of_eq (f := fun a : Active α => { a with stage := stage }) (fun _ => rfl) p.active k

theorem holders_release (p : Pool α) (a : Active α) :
    (p.release k a).holders = p.holders.eraseIdx k := (List.eraseIdx_map _ _ _).symm

theorem active_await (i : Nat) (p : Pool α) :
    (p.await i).active = p.active ∧ (p.await i).free = p.free := by
  rcases await_cases i p with
    ⟨ha, _⟩ | ⟨_, _, _, ⟨_, _, ha⟩ | ⟨_, _, _, _, ha⟩ | ⟨_, _, _, _, ha⟩⟩
  all_goals rw [ha]; exact ⟨rfl, rfl⟩

theorem Log.tickets_joined (x : Option (Ending α)) (l : Log α) :
    (l.joined i x).running = l.running ∧ (l.joined i x).ended = l.ended := by
  rcases x with _ | (_ | _ | _) <;> exact ⟨rfl, rfl⟩

end Pool

namespace Dispatch

variable {u v w : Dispatch α} {c : Call α}

/-- No permit moves, and the jobs that hold one go on holding it. -/
structure KeepsPermits (u v : Dispatch α) : Prop where
  free : v.pool.free = u.pool.free
  holders : v.pool.holders = u.pool.holders
  accepted : v.log.accepted = u.log.accepted
  running : v.log.running = u.log.running
  ended : v.log.ended = u.log.ended

/-- A permit goes to a new job, which has the next ticket. -/
structure TakesPermit (u v : Dispatch α) (i : Nat) (job : Job α) : Prop where
  free : v.pool.free + 1 = u.pool.free
  holders : v.pool.holders = u.pool.holders ++ [(i, job)]
  accepted : v.log.accepted = u.log.accepted ++ [(i, job)]
  running : v.log.running = u.log.running ++ [u.log.accepted.length]
  ended : v.log.ended = u.log.ended

/-- The permit of the `k`-th job comes back, and its ticket is among the ended ones from then
on. -/
structure ReturnsPermit (k : Nat) (u v : Dispatch α) : Prop where
  free : v.pool.free = u.pool.free + 1
  holders : v.pool.holders = u.pool.holders.eraseIdx k
  accepted : v.log.accepted = u.log.accepted
  running : v.log.running = u.log.running.eraseIdx k
  ended : ∃ n, u.log.running[k]? = some n ∧ n ∉ u.log.ended ∧ v.log.ended = u.log.ended ++ [n]

namespace KeepsPermits

theorem refl (u : Dispatch α) : KeepsPermits u u := ⟨rfl, rfl, rfl, rfl, rfl⟩

theorem answer (k : Nat) (c : Call α) (verdict : Verdict) : KeepsPermits u (u.answer k c verdict) :=
  ⟨rfl, rfl, rfl, rfl, rfl⟩

theorem goTo (k : Nat) (gate : Gate) : KeepsPermits u (u.goTo k gate) :=
  ⟨rfl, rfl, rfl, rfl, rfl⟩

theorem returns (h : KeepsPermits u v) (hr : ReturnsPermit k v w) : ReturnsPermit k u w where
  free := by rw [hr.free, h.free]
  holders := by rw [hr.holders, h.holders]
  accepted := by rw [hr.accepted, h.accepted]
  running := by rw [hr.running, h.running]
  ended := by
    rw [← h.running, ← h.ended]
    exact hr.ended

end KeepsPermits

theorem take_accept (hf : 0 < u.pool.free) :
    TakesPermit u ((u.answer k c (.accepted u.log.accepted.length)).perform
      (.accept c.runner c.job)) c.runner c.job where
  free := Nat.sub_add_cancel hf
  holders := by
    simp [perform, Dispatch.answer, Pool.act, Pool.accept, Pool.modifyRunner, Pool.holders]
  accepted := rfl
  running := rfl
  ended := rfl

theorem take_look (k : Nat) (u : Dispatch α) : KeepsPermits u (u.take (.look k)) := by
  cases hk : u.calls[k]? with
  | none => simpa [take, hk] using .refl u
  | some c =>
    by_cases hg : c.gate = .mark
    · have hlook : u.take (.look k) = u.lookAt k c := by simp [take, hk, hg]
      rw [hlook, lookAt]
      split_ifs
      · exact .answer k c .skipped
      · exact .goTo k .permit
    · simpa [take, hk, hg] using .refl u

theorem take_acquire (k : Nat) (u : Dispatch α) :
    KeepsPermits u (u.take (.acquire k)) ∨ ∃ i job, TakesPermit u (u.take (.acquire k)) i job := by
  cases hk : u.calls[k]? with
  | none => exact .inl (by simpa [take, hk] using .refl u)
  | some c =>
    by_cases hg : c.gate = .permit
    · have hacquire : u.take (.acquire k) = u.acquireAt k c := by simp [take, hk, hg]
      rw [hacquire, acquireAt]
      split_ifs with hf
      · exact .inr ⟨c.runner, c.job, take_accept hf⟩
      · exact .inl (.goTo k .scope)
    · exact .inl (by simpa [take, hk, hg] using .refl u)

theorem take_advance (h : Pool.Sound limit u.log u.pool) {a : Active α}
    (ha : u.pool.active[k]? = some a) :
    (1 < a.stepsLeft ∧ KeepsPermits u (u.take (.advance k)) ∧
      ∃ b, (u.take (.advance k)).pool.active[k]? = some b ∧ b.stepsLeft + 1 = a.stepsLeft) ∨
    (a.stepsLeft = 1 ∧ ReturnsPermit k u (u.take (.advance k))) := by
  have hacc : (u.take (.advance k)).log.accepted = u.log.accepted :=
    Pool.Log.accepted_note (m := .advance k) (by simp) u.pool u.log
  rcases Pool.advance_cases ha u.log with
    ⟨f, stage, hadv, hleft, _, hrun, hend⟩ | ⟨hleft, hadv, hlog⟩
  · have hpool : (u.take (.advance k)).pool = (u.pool.modifyRunner a.owner f).moveTo k stage := hadv
    have hone : 1 ≤ ({ a with stage := stage } : Active α).stepsLeft := Active.stepsLeft_pos _
    refine .inl ⟨by omega, ⟨?_, ?_, hacc, hrun, hend⟩, { a with stage := stage }, ?_, hleft⟩
    · rw [hpool]
      rfl
    · rw [hpool, Pool.holders_moveTo, Pool.holders_modifyRunner]
    · rw [hpool]
      simp [Pool.moveTo, Pool.modifyRunner, ha]
  · obtain ⟨n, hn, _⟩ := h.ticket ha
    have hnew : n ∉ u.log.ended := by
      have hdis := (List.nodup_append.mp (h.once.nodup_iff.mpr List.nodup_range)).2.2
      exact fun hmem => hdis n hmem n (List.mem_of_getElem? hn) rfl
    have hpool : (u.take (.advance k)).pool = u.pool.release k a := hadv
    have hl : (u.take (.advance k)).log = u.log.finish k := hlog
    refine .inr ⟨hleft, ?_, ?_, hacc, ?_, n, hn, hnew, ?_⟩
    · rw [hpool]
      rfl
    · rw [hpool, Pool.holders_release]
    · rw [hl]
      rfl
    · simp [hl, Pool.Log.finish, hn]

theorem take_leaves {m : Move α} (hm : m = .cancel ∨
      ∃ j, m = .startWait j ∨ m = .await j ∨ m = .drop j ∨ m = .abandon j) :
    (u.take m).pool.active = u.pool.active ∧ KeepsPermits u (u.take m) := by
  rcases hm with rfl | ⟨j, rfl | rfl | rfl | rfl⟩
  · exact ⟨rfl, rfl, rfl, rfl, rfl, rfl⟩
  · exact ⟨rfl, rfl, rfl, rfl, rfl, rfl⟩
  · obtain ⟨hact, hfree⟩ := Pool.active_await j u.pool
    obtain ⟨hrun, hend⟩ := Pool.Log.tickets_joined (i := j) (u.pool.joins? j) u.log
    have hacc := Pool.Log.accepted_note (m := .await j) (by simp) u.pool u.log
    exact ⟨hact, hfree, congrArg (List.map _) hact, hacc, hrun, hend⟩
  · exact ⟨rfl, rfl, rfl, rfl, rfl, rfl⟩
  · exact ⟨rfl, rfl, rfl, rfl, rfl, rfl⟩

theorem take_permits (h : Pool.Sound limit u.log u.pool) (m : Move α) :
    KeepsPermits u (u.take m) ∨
    (∃ k i job, m = .acquire k ∧ TakesPermit u (u.take m) i job) ∨
    ∃ k, m = .advance k ∧ ReturnsPermit k u (u.take m) := by
  cases m with
  | openRunner => exact .inl ⟨rfl, rfl, rfl, rfl, rfl⟩
  | call i job => exact .inl ⟨rfl, rfl, rfl, rfl, rfl⟩
  | enter k =>
    cases hk : u.calls[k]? with
    | none => exact .inl (by simpa [take, hk] using .refl u)
    | some c =>
      by_cases hc : u.pool.cancelled = true
      · exact .inl (by simpa [take, hk, hc] using .answer k c .refused)
      · exact .inl (by simpa [take, hk, hc] using .goTo k .mark)
  | look k => exact .inl (take_look k u)
  | acquire k =>
    rcases take_acquire k u with hkeep | ⟨i, job, htake⟩
    · exact .inl hkeep
    · exact .inr (.inl ⟨k, i, job, rfl, htake⟩)
  | advance k =>
    cases ha : u.pool.active[k]? with
    | none =>
      have hsame : u.take (.advance k) = u := by
        simp [take, perform, Pool.act, Pool.advance, Pool.Log.note, Pool.Log.advanced, ha]
      exact .inl (by rw [hsame]; exact .refl u)
    | some a =>
      rcases take_advance h ha with ⟨_, hkeep, _⟩ | ⟨_, hret⟩
      · exact .inl hkeep
      · exact .inr (.inr ⟨k, rfl, hret⟩)
  | abandon k => exact .inl (take_leaves (.inr ⟨k, by simp⟩)).2
  | startWait i => exact .inl (take_leaves (.inr ⟨i, by simp⟩)).2
  | await i => exact .inl (take_leaves (.inr ⟨i, by simp⟩)).2
  | drop i => exact .inl (take_leaves (.inr ⟨i, by simp⟩)).2
  | cancel => exact .inl (take_leaves (.inl rfl)).2

end Dispatch

end CloudInventory
