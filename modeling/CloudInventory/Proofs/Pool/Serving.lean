import CloudInventory.Proofs.Pool.Permits

/-! Submissions that wait for a permit. A free permit goes to one that is in flight, first come
first served: the submissions take their looks one after another in the order of their arrival,
and those that are still in flight afterwards have met a pool without permits. -/

namespace CloudInventory.Dispatch

variable {α : Type} {limit i k n : Nat} {u v : Dispatch α} {c : Call α}

/-- A full look of the `k`-th submission in flight, which goes on until it has its answer or finds
no permit. -/
def poll (k : Nat) (u : Dispatch α) : Dispatch α :=
  match u.calls[k]? with
  | none => u
  | some c =>
    let v := u.take (.enter k)
    if u.pool.cancelled then v
    else if u.pool.isClosed c.runner then v.take (.look k)
    else (v.take (.look k)).take (.acquire k)

/-- Full looks of `n` submissions from the `k`-th on; one that gets its answer leaves. -/
def serveFrom : Nat → Nat → Dispatch α → Dispatch α
  | 0, _, u => u
  | n + 1, k, u =>
    let v := u.poll k
    if v.calls.length < u.calls.length then serveFrom n k v else serveFrom n (k + 1) v

def serve (u : Dispatch α) : Dispatch α := u.serveFrom u.calls.length 0

/-- Nothing is there for a submission to this runner, neither a permit nor a refusal. -/
def MustWait (i : Nat) (u : Dispatch α) : Prop :=
  u.pool.free = 0 ∧ u.pool.hasFailed i = false ∧ u.pool.cancelled = false

theorem eraseIdx_goTo (k : Nat) (gate : Gate) (u : Dispatch α) :
    (u.goTo k gate).calls.eraseIdx k = u.calls.eraseIdx k := by
  apply List.ext_getElem?
  intro j
  simp only [goTo, List.getElem?_eraseIdx, List.getElem?_modify]
  by_cases hj : j < k
  · have hne : k ≠ j := by omega
    simp [hj, hne]
  · have hne : k ≠ j + 1 := by omega
    simp [hj, hne]

theorem goTo_goTo (k : Nat) (gate gate' : Gate) (u : Dispatch α) :
    (u.goTo k gate).goTo k gate' = u.goTo k gate' := by
  simp [goTo, List.modify_modify_eq, Function.comp_def]

theorem goTo_answer (k : Nat) (c : Call α) (gate : Gate) (verdict : Verdict) (u : Dispatch α) :
    (u.goTo k gate).answer k { c with gate := gate } verdict = u.answer k c verdict := by
  rw [answer, eraseIdx_goTo]
  rfl

theorem goTo_lookAt (k : Nat) (c : Call α) (gate : Gate) (u : Dispatch α) :
    (u.goTo k gate).lookAt k { c with gate := gate } = u.lookAt k c := by
  unfold lookAt
  rw [goTo_goTo, goTo_answer]
  rfl

theorem goTo_acquireAt (k : Nat) (c : Call α) (gate : Gate) (u : Dispatch α) :
    (u.goTo k gate).acquireAt k { c with gate := gate } = u.acquireAt k c := by
  unfold acquireAt
  rw [goTo_goTo, goTo_answer]
  rfl

theorem poll_eq (hk : u.calls[k]? = some c) :
    u.poll k =
      if u.pool.cancelled then u.answer k c .refused
      else if u.pool.isClosed c.runner then u.answer k c .skipped
      else u.acquireAt k c := by
  by_cases hc : u.pool.cancelled = true
  · simp [poll, take, hk, hc]
  · have henter : u.take (.enter k) = u.goTo k .mark := by simp [take, hk, hc]
    have hmark : (u.goTo k .mark).calls[k]? = some { c with gate := .mark } := by simp [goTo, hk]
    have hlook : (u.goTo k .mark).take (.look k) = u.lookAt k c := by
      simp [take, hmark, goTo_lookAt]
    by_cases hclosed : u.pool.isClosed c.runner = true
    · simp [poll, hk, hc, hclosed, henter, hlook, lookAt]
    · have hgo : u.lookAt k c = u.goTo k .permit := by rw [lookAt, if_neg hclosed]
      have hpermit : (u.goTo k .permit).calls[k]? = some { c with gate := .permit } := by
        simp [goTo, hk]
      have hacquire : (u.goTo k .permit).take (.acquire k) = u.acquireAt k c := by
        simp [take, hpermit, goTo_acquireAt]
      simp [poll, hk, hc, hclosed, henter, hlook, hgo, hacquire]

/-- A full look without anything in between is the pool's own submission. -/
theorem poll_submit (hk : u.calls[k]? = some c) :
    (u.poll k).pool = (u.pool.submit c.runner c.job).2 := by
  rw [poll_eq hk]
  unfold Pool.submit Pool.look Pool.lookWithin acquireAt
  split_ifs <;> simp_all [answer, perform, goTo, Pool.act]

theorem poll_cases (hk : u.calls[k]? = some c) :
    (u.MustWait c.runner ∧ (u.poll k).pool = u.pool ∧
      (u.poll k).calls = u.calls.modify k fun c => { c with gate := .scope }) ∨
    ((u.poll k).calls = u.calls.eraseIdx k ∧ ((u.poll k).pool = u.pool ∨ 0 < u.pool.free)) := by
  rw [poll_eq hk]
  split_ifs with hc hclosed
  · exact .inr ⟨rfl, .inl rfl⟩
  · exact .inr ⟨rfl, .inl rfl⟩
  · unfold acquireAt
    split_ifs with hf
    · exact .inr ⟨rfl, .inr hf⟩
    · have hwait : u.MustWait c.runner := by
        simpa [MustWait, Pool.isClosed, hc, Nat.eq_zero_of_not_pos hf] using hclosed
      exact .inl ⟨hwait, rfl, rfl⟩

theorem serveFrom_calls (hlen : u.calls.length = k + n)
    (hwait : ∀ j c, j < k → u.calls[j]? = some c → u.MustWait c.runner) :
    ∀ c ∈ (u.serveFrom n k).calls, (u.serveFrom n k).MustWait c.runner := by
  induction n generalizing k u with
  | zero =>
    intro c hc
    obtain ⟨j, hj, rfl⟩ := List.mem_iff_getElem.mp hc
    exact hwait j _ (Nat.lt_of_lt_of_eq hj hlen) (List.getElem?_eq_getElem hj)
  | succ n ih =>
    have hk : k < u.calls.length := by omega
    have hget := List.getElem?_eq_getElem hk
    rcases poll_cases hget with ⟨hmust, hpool, hcalls⟩ | ⟨hcalls, hpool⟩
    · have hnlt : ¬(u.poll k).calls.length < u.calls.length := by simp [hcalls]
      simp only [serveFrom, hnlt, if_false]
      refine ih (by rw [hcalls, List.length_modify]; omega) fun j c hj hc => ?_
      simp only [MustWait, hpool]
      rw [hcalls, List.getElem?_modify] at hc
      by_cases hkj : k = j
      · subst hkj
        obtain rfl : { u.calls[k] with gate := .scope } = c := by simpa [hget] using hc
        exact hmust
      · exact hwait j c (by omega) (by simpa [hkj] using hc)
    · have hshort : (u.poll k).calls.length + 1 = u.calls.length := by
        rw [hcalls, List.length_eraseIdx_of_lt hk]
        omega
      have hlt : (u.poll k).calls.length < u.calls.length := by omega
      simp only [serveFrom, hlt, if_true]
      refine ih (by omega) fun j c hj hc => ?_
      rw [hcalls, List.getElem?_eraseIdx_of_lt hj] at hc
      have hold := hwait j c hj hc
      rcases hpool with hpool | hfree
      · simpa only [MustWait, hpool] using hold
      · exact absurd hold.1 (Nat.ne_of_gt hfree)

theorem serve_calls (u : Dispatch α) : ∀ c ∈ u.serve.calls, u.serve.MustWait c.runner :=
  serveFrom_calls (Nat.zero_add _).symm fun _ _ hj _ => absurd hj (Nat.not_lt_zero _)

theorem reaches_poll (k : Nat) (u : Dispatch α) : Relation.ReflTransGen Step u (u.poll k) := by
  have henter : Relation.ReflTransGen Step u (u.take (.enter k)) := .single ⟨.enter k, trivial, rfl⟩
  unfold Dispatch.poll
  split
  · exact .refl
  · split_ifs
    · exact henter
    · exact henter.tail ⟨.look k, trivial, rfl⟩
    · exact (henter.tail ⟨.look k, trivial, rfl⟩).tail ⟨.acquire k, trivial, rfl⟩

theorem Reached.poll (h : Reached limit u) (k : Nat) : Reached limit (u.poll k) :=
  Relation.ReflTransGen.trans h (reaches_poll k u)

theorem Reached.serveFrom (h : Reached limit u) (n k : Nat) : Reached limit (u.serveFrom n k) := by
  induction n generalizing k u with
  | zero => exact h
  | succ n ih =>
    simp only [Dispatch.serveFrom]
    split
    · exact ih (h.poll k) k
    · exact ih (h.poll k) (k + 1)

theorem play_advance (h : Reached limit u) {a : Active α} (ha : u.pool.active[k]? = some a) :
    ReturnsPermit k u (u.play (.replicate a.stepsLeft (.advance k))) := by
  generalize hn : a.stepsLeft = n
  induction n generalizing u a with
  | zero => rcases take_advance h.sound.pool ha with ⟨_, _, _⟩ | ⟨_, _⟩ <;> omega
  | succ n ih =>
    rcases take_advance h.sound.pool ha with ⟨_, hkeep, b, hb, hleft⟩ | ⟨hleft, hret⟩
    · have hstep : Reached limit (u.take (.advance k)) := h.tail ⟨.advance k, trivial, rfl⟩
      exact hkeep.returns (ih hstep hb (by omega))
    · obtain rfl : n = 0 := by omega
      exact hret

theorem ended_prefix (h : Reached limit u) (hv : Relation.ReflTransGen Step u v) :
    u.log.ended <+: v.log.ended ∧ u.log.accepted <+: v.log.accepted := by
  induction hv with
  | refl => exact ⟨List.prefix_refl _, List.prefix_refl _⟩
  | @tail v w hv hstep ih =>
    obtain ⟨m, _, rfl⟩ := hstep
    have hreached : Reached limit v := Relation.ReflTransGen.trans h hv
    rcases take_permits hreached.sound.pool m with hkeep | ⟨_, i, job, _, htake⟩ | ⟨k, _, hret⟩
    · rwa [hkeep.ended, hkeep.accepted]
    · rw [htake.ended, htake.accepted]
      exact ⟨ih.1, ih.2.trans (List.prefix_append _ _)⟩
    · obtain ⟨n, _, _, hend⟩ := hret.ended
      rw [hend, hret.accepted]
      exact ⟨ih.1.trans (List.prefix_append _ _), ih.2⟩

/-- The account of a pool's permits in one state of its use. -/
structure Accounted (limit : Nat) (u : Dispatch α) : Prop where
  clamped : u.pool.limit = max 1 limit
  /-- Free permits and accepted jobs that have not ended make up the limit. -/
  permits : u.pool.free + u.pool.active.length = max 1 limit
  unended : u.log.ended.length + u.pool.active.length = u.log.accepted.length
  /-- No ticket is lost, has ended twice, or runs after it has ended. -/
  once : (u.log.ended ++ u.log.running).Perm (List.range u.log.accepted.length)
  running : u.log.running.map (u.log.accepted[·]?) = u.pool.holders.map some
  stays : ∀ v, Relation.ReflTransGen Step u v →
    u.log.ended <+: v.log.ended ∧ u.log.accepted <+: v.log.accepted
  moves : ∀ m, KeepsPermits u (u.take m) ∨
    (∃ k i job, m = .acquire k ∧ TakesPermit u (u.take m) i job) ∨
    ∃ k, m = .advance k ∧ ReturnsPermit k u (u.take m)
  leaves : ∀ m,
    (m = .cancel ∨ ∃ i, m = .startWait i ∨ m = .await i ∨ m = .drop i ∨ m = .abandon i) →
    (u.take m).pool.active = u.pool.active ∧ KeepsPermits u (u.take m)
  returns : ∀ k a, u.pool.active[k]? = some a →
    ReturnsPermit k u (u.play (.replicate a.stepsLeft (.advance k)))
  submits : ∀ k c, u.calls[k]? = some c → (u.poll k).pool = (u.pool.submit c.runner c.job).2
  looks : ∀ k c, u.calls[k]? = some c →
    u.MustWait c.runner ∨ (u.poll k).calls = u.calls.eraseIdx k
  served : Reached limit u.serve ∧ ∀ c ∈ u.serve.calls, u.serve.MustWait c.runner

theorem permits_conserved (h : Reached limit u) : u.Accounted limit where
  clamped := h.sound.pool.limit
  permits := h.sound.pool.permits.trans h.sound.pool.limit
  unended := by
    have hlen := h.sound.pool.once.length_eq
    have hrun := congrArg List.length h.sound.pool.tasks
    simp only [List.length_append, List.length_range, List.length_map] at hlen hrun
    omega
  once := h.sound.pool.once
  running := by simpa [Pool.holders, Function.comp_def] using h.sound.pool.tasks
  stays _ hv := ended_prefix h hv
  moves := take_permits h.sound.pool
  leaves _ hm := take_leaves hm
  returns _ _ ha := play_advance h ha
  submits _ _ hk := poll_submit hk
  looks k c hk := (poll_cases hk).imp And.left And.left
  served := ⟨h.serveFrom _ _, serve_calls u⟩

/-- The one permit is held by a job that has failed and whose runner is gone, and a submission to
another runner waits for it. -/
def contendedMoves : List (Move Nat) :=
  [.openRunner, .openRunner, .call 0 ⟨.failure (.auth "expired"), .none⟩, .enter 0, .look 0, .acquire 0,
    .advance 0, .startWait 0, .call 1 ⟨.value 7, .none⟩, .enter 0, .look 0, .acquire 0, .drop 0]

theorem contendedMoves_accounted :
    let u := (start 0).play contendedMoves
    Reached 0 u ∧ u.pool.active.length = 1 ∧ u.serve.calls.length = 1 ∧ u.Accounted 0 := by
  have hr : Reached 0 ((start 0).play contendedMoves) := reaches_play (by decide)
  exact ⟨hr, rfl, rfl, permits_conserved hr⟩

end CloudInventory.Dispatch
