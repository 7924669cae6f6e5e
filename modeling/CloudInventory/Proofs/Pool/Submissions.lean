import CloudInventory.Proofs.Pool.Accounts
import CloudInventory.Proofs.Pool.Dispatch

/-! The answers to submissions. A submission that was passed over is told that all is well, so the
log has to show that no wait of its runner comes to values: its runner was closed, by an error
that is recorded or by the pool's cancellation. -/

namespace CloudInventory

variable {α : Type} {limit i k : Nat} {u v : Dispatch α} {c : Call α}

namespace Dispatch

structure Sound (limit : Nat) (u : Dispatch α) : Prop where
  pool : Pool.Sound limit u.log u.pool
  calls : ∀ c ∈ u.calls, u.pool.phase? c.runner = some .collecting
  accepted : u.answers.filterMap Answer.task? = u.log.accepted.zipIdx
  skipped : ∀ x ∈ u.answers, x.verdict = .skipped → u.pool.isClosed x.runner = true
  settled : ∀ i values, u.pool.phase? i = some (.settled (.ok values)) →
    ∀ x ∈ u.answers, x.runner = i → x.verdict ≠ .skipped

namespace Sound

theorem start (limit : Nat) : Sound limit (start limit : Dispatch α) where
  pool := .new limit
  calls := by simp [Dispatch.start]
  accepted := rfl
  skipped := by simp [Dispatch.start]
  settled := by simp [Dispatch.start]

/-- A step that accepts nothing, keeps the runners of the calls in flight collecting, and lets no
wait come to values that has passed over a submission. -/
theorem perform (h : Sound limit u) {m : Pool.Act α} (hm : u.pool.Allows m)
    (ha : ∀ i job, m ≠ .accept i job)
    (hc : ∀ c ∈ u.calls, (u.pool.act m).phase? c.runner = u.pool.phase? c.runner)
    (hv : ∀ i values, (u.pool.act m).phase? i = some (.settled (.ok values)) →
      u.pool.phase? i = some (.settled (.ok values)) ∨ u.pool.isClosed i = false) :
    Sound limit (u.perform m) where
  pool := h.pool.act hm
  calls c hcall := (hc c hcall).trans (h.calls c hcall)
  accepted := by
    simpa only [Dispatch.perform, Pool.Log.accepted_note ha] using h.accepted
  skipped x hx hs := Pool.isClosed_act m (h.skipped x hx hs)
  settled i values hp x hx hi hs := by
    rcases hv i values hp with hold | hopen
    · exact h.settled i values hold x hx hi hs
    · have hclosed := h.skipped x hx hs
      simp [hi, hopen] at hclosed

theorem answer (h : Sound limit u) (hk : u.calls[k]? = some c) {verdict : Verdict}
    (hv : verdict = .refused ∨ verdict = .skipped ∧ u.pool.isClosed c.runner = true) :
    Sound limit (u.answer k c verdict) where
  pool := h.pool
  calls d hd := h.calls d (List.mem_of_mem_eraseIdx hd)
  accepted := by
    rcases hv with rfl | ⟨rfl, _⟩ <;>
      simpa [Dispatch.answer, List.filterMap_cons, Answer.task?] using h.accepted
  skipped x hx hs := by
    simp only [Dispatch.answer, List.mem_append, List.mem_singleton] at hx
    rcases hx with hx | rfl
    · exact h.skipped x hx hs
    · rcases hv with rfl | ⟨rfl, hclosed⟩
      · cases hs
      · exact hclosed
  settled i values hp x hx hi hs := by
    simp only [Dispatch.answer, List.mem_append, List.mem_singleton] at hx
    rcases hx with hx | rfl
    · exact h.settled i values hp x hx hi hs
    · -- the runner of a call in flight has not settled
      obtain rfl : c.runner = i := hi
      have hset : u.pool.phase? c.runner = some (.settled (.ok values)) := hp
      rw [h.calls c (List.mem_of_getElem? hk)] at hset
      cases hset

theorem accept (h : Sound limit u) (hk : u.calls[k]? = some c) (hfree : 0 < u.pool.free) :
    Sound limit
      ((u.answer k c (.accepted u.log.accepted.length)).perform (.accept c.runner c.job)) := by
  have hallowed : u.pool.Allows (.accept c.runner c.job) :=
    ⟨h.calls c (List.mem_of_getElem? hk), hfree⟩
  have hphase : ∀ i, (u.pool.accept c.runner c.job).phase? i = u.pool.phase? i :=
    fun i => Pool.phase?_accept c.job
  exact {
    pool := h.pool.act hallowed
    calls := fun d hd => (hphase _).trans (h.calls d (List.mem_of_mem_eraseIdx hd))
    accepted := by
      simp [Dispatch.perform, Dispatch.answer, Pool.Log.note, Pool.Log.accept, Answer.task?,
        h.accepted, List.zipIdx_append]
    skipped := fun x hx hs => by
      simp only [Dispatch.perform, Dispatch.answer, List.mem_append, List.mem_singleton] at hx
      rcases hx with hx | rfl
      · exact Pool.isClosed_act _ (h.skipped x hx hs)
      · cases hs
    settled := fun i values hp x hx hi hs => by
      simp only [Dispatch.perform, Dispatch.answer, List.mem_append, List.mem_singleton] at hx
      rcases hx with hx | rfl
      · exact h.settled i values ((hphase i).symm.trans hp) x hx hi hs
      · cases hs }

theorem goTo (h : Sound limit u) (k : Nat) (gate : Gate) : Sound limit (u.goTo k gate) where
  pool := h.pool
  calls d hd := by
    rcases mem_of_mem_modify hd with hd | ⟨c, hc, rfl⟩
    · exact h.calls d hd
    · exact h.calls c (List.mem_of_getElem? hc)
  accepted := h.accepted
  skipped := h.skipped
  settled := h.settled

theorem lookAt (h : Sound limit u) (hk : u.calls[k]? = some c) : Sound limit (u.lookAt k c) := by
  unfold Dispatch.lookAt
  split
  · exact h.answer hk (.inr ⟨rfl, ‹_›⟩)
  · exact h.goTo k .permit

theorem acquireAt (h : Sound limit u) (hk : u.calls[k]? = some c) :
    Sound limit (u.acquireAt k c) := by
  unfold Dispatch.acquireAt
  split
  · exact h.accept hk ‹_›
  · exact h.goTo k .scope

theorem end_phase (h : Sound limit u) {m : Pool.Act α} (hm : u.pool.Allows m)
    (ha : ∀ i job, m ≠ .accept i job) (i : Nat) (hidle : u.IsIdle i)
    (hother : ∀ j, i ≠ j → (u.pool.act m).phase? j = u.pool.phase? j)
    (hself : ∀ values, (u.pool.act m).phase? i ≠ some (.settled (.ok values))) :
    Sound limit (u.perform m) := by
  refine h.perform hm ha (fun c hc => hother _ fun he => hidle c hc he.symm) ?_
  intro j values hp
  by_cases hj : i = j
  · exact absurd hp (hj ▸ hself values)
  · exact .inl ((hother j hj).symm.trans hp)

theorem await (h : Sound limit u) (i : Nat) : Sound limit (u.perform (.await i)) := by
  refine h.perform trivial (by simp) (fun c hc => ?_) fun j values hp => ?_
  · by_cases hi : i = c.runner
    · subst hi
      rcases Pool.phase?_await c.runner u.pool with hsame | ⟨hw, _⟩
      · exact hsame
      · rw [h.calls c hc] at hw
        cases hw
    · exact Pool.phase?_await_of_ne hi
  · by_cases hj : i = j
    · subst hj
      rcases Pool.phase?_await i u.pool with hsame | ⟨hw, _⟩
      · exact .inl (hsame.symm.trans hp)
      · exact .inr (h.pool.not_closed_of_settles hw hp)
    · exact .inl ((Pool.phase?_await_of_ne hj).symm.trans hp)

theorem openRunner (h : Sound limit u) : Sound limit (u.perform .addRunner) := by
  refine h.perform trivial (by simp) (fun c hc => ?_) fun j values hp => ?_
  · exact Pool.phase?_addRunner (Pool.lt_of_phase?_eq_some (h.calls c hc))
  · have hlt := Pool.lt_of_phase?_eq_some hp
    simp only [Pool.act, Pool.addRunner, List.length_append, List.length_singleton] at hlt
    by_cases hj : j = u.pool.runners.length
    · subst hj
      rw [show u.pool.act .addRunner = u.pool.addRunner from rfl,
        Pool.phase?_addRunner_length] at hp
      cases hp
    · exact .inl ((Pool.phase?_addRunner (by omega)).symm.trans hp)

theorem take (h : Sound limit u) {m : Move α} (hm : u.Allows m) : Sound limit (u.take m) := by
  cases m with
  | openRunner => exact h.openRunner
  | call i job =>
    exact { h with
      calls := fun c hc => by
        simp only [Dispatch.take, List.mem_append, List.mem_singleton] at hc
        rcases hc with hc | rfl
        · exact h.calls c hc
        · exact hm.1 }
  | enter k =>
    cases hk : u.calls[k]? with
    | none => simpa [Dispatch.take, hk] using h
    | some c =>
      by_cases hc : u.pool.cancelled = true
      · simpa [Dispatch.take, hk, hc] using h.answer hk (.inl rfl)
      · simpa [Dispatch.take, hk, hc] using h.goTo k .mark
  | look k =>
    cases hk : u.calls[k]? with
    | none => simpa [Dispatch.take, hk] using h
    | some c =>
      by_cases hg : c.gate = .mark
      · simpa [Dispatch.take, hk, hg] using h.lookAt hk
      · simpa [Dispatch.take, hk, hg] using h
  | acquire k =>
    cases hk : u.calls[k]? with
    | none => simpa [Dispatch.take, hk] using h
    | some c =>
      by_cases hg : c.gate = .permit
      · simpa [Dispatch.take, hk, hg] using h.acquireAt hk
      · simpa [Dispatch.take, hk, hg] using h
  | abandon k =>
    exact { h with calls := fun c hc => h.calls c (List.mem_of_mem_eraseIdx hc) }
  | advance k =>
    exact h.perform trivial (by simp) (fun c _ => Pool.phase?_advance)
      fun i values hp => .inl (Pool.phase?_advance.symm.trans hp)
  | startWait i =>
    have hlt := Pool.lt_of_phase?_eq_some hm.1
    refine h.end_phase hm.1 (by simp) i hm.2 (fun j hj => Pool.phase?_startWait_of_ne hj) ?_
    intro values hp
    rw [show (u.pool.act (.startWait i)).phase? i = some .waiting from
      Pool.phase?_modifyRunner_inPhase hlt] at hp
    cases hp
  | await i => exact h.await i
  | drop i =>
    have hlt := hm.1.elim Pool.lt_of_phase?_eq_some Pool.lt_of_phase?_eq_some
    refine h.end_phase hm.1 (by simp) i hm.2 (fun j hj => Pool.phase?_drop_of_ne hj) ?_
    intro values hp
    rw [show (u.pool.act (.drop i)).phase? i = some .dropped from
      Pool.phase?_modifyRunner_inPhase hlt] at hp
    cases hp
  | cancel => exact h.perform trivial (by simp) (fun c _ => rfl) fun i values hp => .inl hp

end Sound

theorem Reached.sound (h : Reached limit u) : Sound limit u := by
  induction h with
  | refl => exact .start limit
  | tail _ hstep ih =>
    obtain ⟨m, hm, rfl⟩ := hstep
    exact ih.take hm

/-- The submissions to a runner that were told that all is well. -/
def okAnswers (i : Nat) (u : Dispatch α) : List (Answer α) :=
  u.answers.filter fun x => x.runner == i && x.verdict.isOk

theorem mem_okAnswers {x : Answer α} :
    x ∈ u.okAnswers i ↔ x ∈ u.answers ∧ x.runner = i ∧ x.verdict.isOk = true := by
  simp [okAnswers]

theorem Sound.ticket (h : Sound limit u) {x : Answer α} (hx : x ∈ u.answers) {n : Nat}
    (hn : x.verdict = .accepted n) : u.log.accepted[n]? = some (x.runner, x.job) := by
  have htask : ((x.runner, x.job), n) ∈ u.answers.filterMap Answer.task? :=
    List.mem_filterMap.mpr ⟨x, hx, by simp [Answer.task?, hn]⟩
  rw [h.accepted] at htask
  exact List.mem_zipIdx_iff_getElem?.mp htask

theorem Sound.tickets_nodup (h : Sound limit u) :
    ((u.answers.filterMap Answer.task?).map Prod.snd).Nodup := by
  rw [h.accepted, List.zipIdx_map_snd]
  exact List.nodup_range'

theorem map_verdict {xs : List (Answer α)} (h : ∀ x ∈ xs, ∃ n, x.verdict = .accepted n) :
    xs.map (·.verdict) = ((xs.filterMap Answer.task?).map Prod.snd).map .accepted := by
  induction xs with
  | nil => rfl
  | cons x xs ih =>
    obtain ⟨n, hn⟩ := h x List.mem_cons_self
    have htask : x.task? = some ((x.runner, x.job), n) := by simp [Answer.task?, hn]
    rw [List.filterMap_cons_some htask, List.map_cons, List.map_cons, List.map_cons, hn,
      ih fun y hy => h y (List.mem_cons_of_mem _ hy)]

theorem Sound.okAnswers_job (h : Sound limit u)
    (hs : ∀ x ∈ u.answers, x.runner = i → x.verdict ≠ .skipped) :
    (u.okAnswers i).map (·.job) = u.log.acceptedBy i := by
  have hacc : u.log.accepted = (u.answers.filterMap Answer.task?).map Prod.fst := by
    rw [h.accepted, List.zipIdx_map_fst]
  rw [okAnswers, Pool.Log.acceptedBy, hacc]
  generalize u.answers = xs at hs
  induction xs with
  | nil => rfl
  | cons x xs ih =>
    have hxs := ih fun y hy => hs y (List.mem_cons_of_mem _ hy)
    have hx := hs x List.mem_cons_self
    obtain ⟨j, job, verdict⟩ := x
    by_cases hj : j = i <;> cases verdict <;>
      simp_all [Answer.task?, Verdict.isOk, List.filterMap_cons]

/-- A wait that returns values lost none and doubled none: every submission that was told that
all is well has run its job to its end, no two of them the same, and the values are those of
these jobs, one for each. -/
theorem wait_values_complete (h : Reached limit u) {values : List α}
    (hw : u.pool.settled? i = some (.ok values)) :
    (∀ x ∈ u.okAnswers i, ∃ n, x.verdict = .accepted n ∧
      u.log.accepted[n]? = some (i, x.job) ∧ n ∈ u.log.ended) ∧
    ((u.okAnswers i).map (·.verdict)).Nodup ∧
    ((u.okAnswers i).map fun x => x.job.ending).Perm (values.map .value) := by
  have hs := h.sound
  have hphase := Pool.settled?_eq_some.mp hw
  have hskip := hs.settled i values hphase
  obtain ⟨_, hquiet, hperm⟩ := hs.pool.settled_ok hphase
  have hticket : ∀ x ∈ u.okAnswers i, ∃ n, x.verdict = .accepted n := by
    intro x hx
    obtain ⟨hmem, hi, hok⟩ := mem_okAnswers.mp hx
    cases hv : x.verdict with
    | refused => simp [hv, Verdict.isOk] at hok
    | skipped => exact absurd hv (hskip x hmem hi)
    | accepted n => exact ⟨n, rfl⟩
  refine ⟨fun x hx => ?_, ?_, ?_⟩
  · obtain ⟨hmem, hi, _⟩ := mem_okAnswers.mp hx
    obtain ⟨n, hv⟩ := hticket x hx
    have hn := hs.ticket hmem hv
    rw [hi] at hn
    exact ⟨n, hv, hn, hs.pool.ended_of_quiet hquiet hn⟩
  · have hsub : (u.okAnswers i).Sublist u.answers := List.filter_sublist
    have hnodup := hs.tickets_nodup.sublist ((hsub.filterMap _).map _)
    rw [map_verdict hticket]
    exact List.Pairwise.map _ (fun _ _ => mt Verdict.accepted.inj) hnodup
  · rw [← hs.okAnswers_job hskip, List.map_map] at hperm
    exact hperm

/-- Two runners share one permit; the second fails while the first still submits, and the pool is
cancelled once the wait of the first is over. -/
def siblingMoves : List (Move Nat) :=
  [.openRunner, .openRunner, .call 0 ⟨.value 7, .none⟩, .enter 0, .look 0, .acquire 0,
    .call 1 ⟨.failure (.auth "expired"), .none⟩, .enter 0, .look 0, .acquire 0, .advance 0,
    .enter 0, .look 0, .acquire 0, .call 0 ⟨.value 8, .none⟩, .enter 0, .look 0, .acquire 0,
    .advance 0, .advance 0, .advance 0, .enter 0, .look 0, .acquire 0, .startWait 0, .await 0,
    .advance 0, .await 0, .await 0, .cancel]

theorem siblingMoves_complete :
    let u := (start 0).play siblingMoves
    Reached 0 u ∧ u.pool.settled? 0 = some (.ok [7, 8]) ∧
      ((u.okAnswers 0).map fun x => x.job.ending).Perm [.value 7, .value 8] := by
  have hr : Reached 0 ((start 0).play siblingMoves) := reaches_play (by decide)
  have hw : ((start 0).play siblingMoves).pool.settled? 0 = some (.ok [7, 8]) := rfl
  exact ⟨hr, hw, (wait_values_complete hr hw).2.2⟩

end Dispatch

end CloudInventory
