import CloudInventory.Proofs.Pool.FirstError

/-! Runners of one pool are apart from each other. What a move does to one of them it does to no
other: the errors, the jobs and the wait of every other runner are as they were, and so are its
submissions. -/

namespace CloudInventory

def Active.entry (a : Active α) : Nat × Job α × Stage := (a.owner, a.job, a.stage)

def Call.entry (c : Call α) : Nat × Job α × Gate := (c.runner, c.job, c.gate)

def Answer.entry (x : Answer α) : Nat × Job α × Verdict := (x.runner, x.job, x.verdict)

namespace Pool

variable {α : Type} {limit i j k : Nat} {l l' : Log α} {p p' : Pool α} {job : Job α}

/-- The jobs of a runner that hold a permit. -/
def activeOf (i : Nat) (p : Pool α) : List (Job α × Stage) :=
  ownedBy i (p.active.map Active.entry)

/-- The runner that an act is about. -/
def owner? (p : Pool α) : Act α → Option Nat
  | .addRunner => some p.runners.length
  | .accept i _ | .startWait i | .await i | .drop i => some i
  | .advance k => (p.active[k]?).map (·.owner)
  | .cancel => none

/-- All that a pool and its log hold of one runner stays. -/
structure Keeps (j : Nat) (l : Log α) (p : Pool α) (l' : Log α) (p' : Pool α) : Prop where
  runner : p'.runners[j]? = p.runners[j]?
  active : p'.activeOf j = p.activeOf j
  accepted : l'.acceptedBy j = l.acceptedBy j
  ended : l'.endedOf j = l.endedOf j
  errors : l'.errorsOf j = l.errorsOf j

namespace Keeps

theorem refl (j : Nat) (l : Log α) (p : Pool α) : Keeps j l p l p := ⟨rfl, rfl, rfl, rfl, rfl⟩

theorem modifyRunner {f : Runner α → Runner α} (h : i ≠ j) :
    Keeps j l p l (p.modifyRunner i f) where
  runner := List.getElem?_modify_ne f p.runners h
  active := rfl
  accepted := rfl
  ended := rfl
  errors := rfl

theorem addRunner (h : p.runners.length ≠ j) : Keeps j l p l p.addRunner where
  runner := by
    rcases Nat.lt_or_gt_of_ne h with hlt | hlt
    · have hnone : p.runners.length + 1 ≤ j := hlt
      rw [List.getElem?_eq_none (Nat.le_of_lt hlt)]
      exact List.getElem?_eq_none (by simpa [Pool.addRunner] using hnone)
    · exact List.getElem?_append_left hlt
  active := rfl
  accepted := rfl
  ended := rfl
  errors := rfl

theorem accept (hs : Sound limit l p) (h : i ≠ j) :
    Keeps j l p (l.accept i job) (p.accept i job) where
  runner := List.getElem?_modify_ne Runner.accepted p.runners h
  active := by simp [activeOf, Pool.accept, Active.entry, h]
  accepted := by simp [h]
  ended := Log.endedOf_accept fun n hn => hs.running_lt n (List.mem_append_left _ hn)
  errors := rfl

theorem moveTo {a : Active α} (ha : p.active[k]? = some a) (h : a.owner ≠ j) (stage : Stage) :
    Keeps j l p l (p.moveTo k stage) where
  runner := rfl
  active := ownedBy_modify_of_ne ha h rfl
  accepted := rfl
  ended := rfl
  errors := rfl

theorem record (h : i ≠ j) (e : Error) : Keeps j l p (l.record i e) p where
  runner := rfl
  active := rfl
  accepted := rfl
  ended := rfl
  errors := by simp [h]

theorem release (hs : Sound limit l p) {a : Active α} (ha : p.active[k]? = some a)
    (h : a.owner ≠ j) : Keeps j l p (l.finish k) (p.release k a) := by
  obtain ⟨n, hrun, hacc⟩ := hs.ticket ha
  exact {
    runner := List.getElem?_modify_ne _ p.runners h
    active := ownedBy_eraseIdx_of_ne ha h
    accepted := rfl
    ended := by simp [Log.endedOf_finish hrun hacc, h]
    errors := rfl }

theorem trans {l'' : Log α} {p'' : Pool α} (h : Keeps j l p l' p') (h' : Keeps j l' p' l'' p'') :
    Keeps j l p l'' p'' where
  runner := h'.runner.trans h.runner
  active := h'.active.trans h.active
  accepted := h'.accepted.trans h.accepted
  ended := h'.ended.trans h.ended
  errors := h'.errors.trans h.errors

theorem advance (hs : Sound limit l p) (h : p.owner? (.advance k) ≠ some j) :
    Keeps j l p (l.advanced k p) (p.advance k) := by
  cases ha : p.active[k]? with
  | none => simpa [Log.advanced, Pool.advance, ha] using refl j l p
  | some a =>
    have hne : a.owner ≠ j := by simpa [owner?, ha] using h
    cases hn : a.next with
    | record e =>
      have hmove := moveTo (l := l.record a.owner e)
        (p := p.modifyRunner a.owner (Runner.record e)) ha hne .recorded
      simpa only [Log.advanced, Pool.advance, ha, hn] using
        (record hne e).trans ((modifyRunner hne).trans hmove)
    | mark =>
      have hmove := moveTo (l := l) (p := p.modifyRunner a.owner Runner.mark) ha hne .marked
      simpa only [Log.advanced, Pool.advance, ha, hn] using (modifyRunner hne).trans hmove
    | release => simpa only [Log.advanced, Pool.advance, ha, hn] using release hs ha hne

theorem await (h : i ≠ j) : Keeps j l p (l.joined i (p.joins? i)) (p.await i) := by
  have hlog : Keeps j l p (l.joined i (p.joins? i)) p := by
    cases hj : p.joins? i with
    | none => exact refl j l p
    | some x =>
      cases x with
      | panic report => exact record h (.task report)
      | value _ | failure _ => exact refl j l p
  refine hlog.trans ?_
  rcases await_cases i p with ⟨ha, _⟩ | ⟨_, _, _, ⟨_, _, ha⟩ | ⟨_, _, _, _, ha⟩ | ⟨_, _, _, _, ha⟩⟩
  · rw [ha]
    exact refl j _ p
  all_goals rw [ha]; exact modifyRunner h

theorem act (hs : Sound limit l p) {m : Act α} (h : p.owner? m ≠ some j) :
    Keeps j l p (l.note m p) (p.act m) := by
  cases m with
  | addRunner => exact addRunner (by simpa [owner?] using h)
  | accept i job => exact accept hs (by simpa [owner?] using h)
  | advance k => exact advance hs h
  | startWait i | drop i => exact modifyRunner (by simpa [owner?] using h)
  | await i => exact await (by simpa [owner?] using h)
  | cancel => exact ⟨rfl, rfl, rfl, rfl, rfl⟩

end Keeps

end Pool

namespace Dispatch

variable {α : Type} {limit i j k : Nat} {u v : Dispatch α} {c : Call α} {m : Move α}

/-- The submissions to a runner that are in flight. -/
def callsOf (i : Nat) (u : Dispatch α) : List (Job α × Gate) :=
  ownedBy i (u.calls.map Call.entry)

def answersOf (i : Nat) (u : Dispatch α) : List (Job α × Verdict) :=
  ownedBy i (u.answers.map Answer.entry)

/-- The runner that a move is about. -/
def runner? (u : Dispatch α) : Move α → Option Nat
  | .openRunner => some u.pool.runners.length
  | .call i _ | .startWait i | .await i | .drop i => some i
  | .enter k | .look k | .acquire k | .abandon k => (u.calls[k]?).map (·.runner)
  | .advance k => (u.pool.active[k]?).map (·.owner)
  | .cancel => none

/-- All that there is of one runner stays. -/
structure Untouched (j : Nat) (u v : Dispatch α) : Prop
    extends Pool.Keeps j u.log u.pool v.log v.pool where
  calls : v.callsOf j = u.callsOf j
  answers : v.answersOf j = u.answersOf j

namespace Untouched

theorem refl (j : Nat) (u : Dispatch α) : Untouched j u u := ⟨.refl j u.log u.pool, rfl, rfl⟩

theorem perform (hs : Sound limit u) {a : Pool.Act α} (h : u.pool.owner? a ≠ some j) :
    Untouched j u (u.perform a) := ⟨.act hs.pool h, rfl, rfl⟩

theorem answer (hk : u.calls[k]? = some c) (h : c.runner ≠ j) (verdict : Verdict) :
    Untouched j u (u.answer k c verdict) where
  toKeeps := .refl j u.log u.pool
  calls := ownedBy_eraseIdx_of_ne hk h
  answers := by simp [answersOf, Dispatch.answer, Answer.entry, h]

theorem goTo (hk : u.calls[k]? = some c) (h : c.runner ≠ j) (gate : Gate) :
    Untouched j u (u.goTo k gate) where
  toKeeps := .refl j u.log u.pool
  calls := ownedBy_modify_of_ne hk h rfl
  answers := rfl

theorem lookAt (hk : u.calls[k]? = some c) (h : c.runner ≠ j) : Untouched j u (u.lookAt k c) := by
  unfold Dispatch.lookAt
  split
  · exact answer hk h .skipped
  · exact goTo hk h .permit

theorem acquireAt (hs : Sound limit u) (hk : u.calls[k]? = some c) (h : c.runner ≠ j) :
    Untouched j u (u.acquireAt k c) := by
  unfold Dispatch.acquireAt
  split
  · have hanswer := answer hk h (.accepted u.log.accepted.length)
    exact { hanswer with toKeeps := .accept hs.pool h }
  · exact goTo hk h .scope

theorem take (hs : Sound limit u) (h : u.runner? m ≠ some j) : Untouched j u (u.take m) := by
  cases m with
  | openRunner => exact perform hs h
  | call i job =>
    have hi : i ≠ j := by simpa [runner?] using h
    exact { refl j u with calls := by simp [callsOf, Dispatch.take, Call.entry, hi] }
  | enter k =>
    cases hk : u.calls[k]? with
    | none => simpa [Dispatch.take, hk] using refl j u
    | some c =>
      have hc : c.runner ≠ j := by simpa [runner?, hk] using h
      by_cases hcancelled : u.pool.cancelled = true
      · simpa [Dispatch.take, hk, hcancelled] using answer hk hc .refused
      · simpa [Dispatch.take, hk, hcancelled] using goTo hk hc .mark
  | look k =>
    cases hk : u.calls[k]? with
    | none => simpa [Dispatch.take, hk] using refl j u
    | some c =>
      have hc : c.runner ≠ j := by simpa [runner?, hk] using h
      by_cases hg : c.gate = .mark
      · simpa [Dispatch.take, hk, hg] using lookAt hk hc
      · simpa [Dispatch.take, hk, hg] using refl j u
  | acquire k =>
    cases hk : u.calls[k]? with
    | none => simpa [Dispatch.take, hk] using refl j u
    | some c =>
      have hc : c.runner ≠ j := by simpa [runner?, hk] using h
      by_cases hg : c.gate = .permit
      · simpa [Dispatch.take, hk, hg] using acquireAt hs hk hc
      · simpa [Dispatch.take, hk, hg] using refl j u
  | abandon k =>
    cases hk : u.calls[k]? with
    | none =>
      have hsame : u.take (.abandon k) = u := by
        simp [Dispatch.take, List.eraseIdx_of_length_le (List.getElem?_eq_none_iff.mp hk)]
      rw [hsame]
      exact refl j u
    | some c =>
      have hc : c.runner ≠ j := by simpa [runner?, hk] using h
      exact { refl j u with calls := ownedBy_eraseIdx_of_ne hk hc }
  | advance k => exact perform hs h
  | startWait i | await i | drop i => exact perform hs h
  | cancel => exact perform hs h

end Untouched

/-- Only a cancellation cancels the pool. -/
theorem cancelled_take (hm : m ≠ .cancel) : (u.take m).pool.cancelled = u.pool.cancelled := by
  cases m with
  | openRunner | call | abandon | startWait | drop => rfl
  | enter k =>
    simp only [take]
    split
    · rfl
    · split <;> rfl
  | look k =>
    simp only [take, lookAt]
    split
    · rfl
    · split_ifs <;> rfl
  | acquire k =>
    simp only [take, acquireAt]
    split
    · rfl
    · split_ifs <;> rfl
  | advance k => exact Pool.cancelled_advance k u.pool
  | await i => exact Pool.cancelled_await i u.pool
  | cancel => exact absurd rfl hm

end Dispatch

end CloudInventory
