import CloudInventory.Proofs.Pool.Alone

/-! A run of several runners holds a run of each of them alone: its own moves make up a run of a
pool of the same limit in which its submissions have the same answers and its wait returns the
same. -/

namespace CloudInventory.Dispatch

variable {α : Type} {limit i j k : Nat} {u v w : Dispatch α} {c : Call α} {m : Move α}
  {ms : List (Move α)}

/-- One state is that of a runner alone, the other one that of all: the runner is the same, and so
are its jobs and its submission, which looks at the same gate unless its look is in vain. -/
structure Alone (j : Nat) (vain : Bool) (u v : Dispatch α) : Prop where
  pool : v.pool = u.pool.alone j
  calls : ∃ gate, v.calls = (u.callsOf j).map (fun x => ⟨0, x.1, gate⟩) ∧
    (vain = false → ∀ x ∈ u.callsOf j, x.2 = gate ∨ x.2 = .scope)
  told : v.toldOf 0 = u.toldOf j
  accepted : v.log.acceptedBy 0 = u.log.acceptedBy j

namespace Alone

variable {vain vain' : Bool}

theorem start (j limit : Nat) :
    Alone j false (start limit : Dispatch α) (Dispatch.start limit) where
  pool := (Pool.alone_new j limit).symm
  calls := ⟨.scope, rfl, by simp [callsOf, Dispatch.start]⟩
  told := rfl
  accepted := rfl

theorem mono (h : Alone j vain u v)
    (hvain : ∀ x ∈ u.callsOf j, x.2 ≠ .scope → vain' = false → vain = false) :
    Alone j vain' u v := by
  obtain ⟨gate, hcalls, hgate⟩ := h.calls
  refine { h with calls := ⟨gate, hcalls, fun hfalse x hx => ?_⟩ }
  by_cases hs : x.2 = .scope
  · exact .inr hs
  · exact hgate (hvain x hx hs hfalse) x hx

theorem of_untouched (h : Alone j vain u v) (hw : Untouched j u w)
    (hlimit : w.pool.limit = u.pool.limit) (hc : w.pool.cancelled = u.pool.cancelled) :
    Alone j vain w v where
  pool := by rw [h.pool, Pool.alone_of_keeps hw.toKeeps hlimit hc]
  calls := by
    rw [hw.calls]
    exact h.calls
  told := by rw [h.told, toldOf, toldOf, hw.answers]
  accepted := by rw [h.accepted, hw.accepted]

theorem call (h : Alone j vain u v) (hn : (u.calls.map (·.runner)).Nodup)
    (hk : u.calls[k]? = some c) (hc : c.runner = j) :
    ∃ gate, v.calls = [⟨0, c.job, gate⟩] ∧ (vain = false → c.gate = gate ∨ c.gate = .scope) := by
  obtain ⟨gate, hcalls, hgate⟩ := h.calls
  rw [callsOf_eq hn hk hc] at hcalls hgate
  exact ⟨gate, hcalls, fun hfalse => hgate hfalse _ List.mem_cons_self⟩

theorem answer (h : Alone j vain u v) (hn : (u.calls.map (·.runner)).Nodup)
    (hk : u.calls[k]? = some c) (hc : c.runner = j) {gate : Gate} {verdict verdict' : Verdict}
    (hcalls : v.calls = [⟨0, c.job, gate⟩]) (hv : verdict.bare = verdict'.bare) :
    Alone j vain' (u.answer k c verdict) (v.answer 0 ⟨0, c.job, gate⟩ verdict') where
  pool := h.pool
  calls := by
    rw [callsOf_answer hn hk hc]
    exact ⟨.scope, by simp [Dispatch.answer, hcalls], by simp⟩
  told := by
    have htold := h.told
    simp only [toldOf, answersOf] at htold
    simp [toldOf, answersOf, Dispatch.answer, Answer.entry, hc, hv, htold]
  accepted := h.accepted

theorem goTo (h : Alone j vain u v) (hn : (u.calls.map (·.runner)).Nodup)
    (hk : u.calls[k]? = some c) (hc : c.runner = j) {gate : Gate}
    (hcalls : v.calls = [⟨0, c.job, gate⟩]) (next : Gate) :
    Alone j vain' (u.goTo k next) (v.goTo 0 next) where
  pool := h.pool
  calls := by
    rw [callsOf_goTo hn hk hc]
    exact ⟨next, by simp [Dispatch.goTo, hcalls], by simp⟩
  told := h.told
  accepted := h.accepted

theorem perform (h : Alone j vain u v) {a b : Pool.Act α}
    (hpool : (u.pool.act a).alone j = (u.pool.alone j).act b)
    (ha : ∀ i job, a ≠ .accept i job) (hb : ∀ i job, b ≠ .accept i job) :
    Alone j vain (u.perform a) (v.perform b) where
  pool := by
    simp only [Dispatch.perform, h.pool]
    exact hpool.symm
  calls := h.calls
  told := h.told
  accepted := by
    have hacc := Pool.Log.accepted_note ha u.pool u.log
    have hacc' := Pool.Log.accepted_note hb v.pool v.log
    simp only [Dispatch.perform, Pool.Log.acceptedBy, hacc, hacc']
    exact h.accepted

theorem accept (h : Alone j vain u v) (hn : (u.calls.map (·.runner)).Nodup)
    (hk : u.calls[k]? = some c) (hc : c.runner = j) {gate : Gate}
    (hcalls : v.calls = [⟨0, c.job, gate⟩]) (n n' : Nat) :
    Alone j vain' ((u.answer k c (.accepted n)).perform (.accept c.runner c.job))
      ((v.answer 0 ⟨0, c.job, gate⟩ (.accepted n')).perform (.accept 0 c.job)) := by
  have hanswer : Alone j vain' (u.answer k c (.accepted n))
      (v.answer 0 ⟨0, c.job, gate⟩ (.accepted n')) := h.answer hn hk hc hcalls rfl
  subst hc
  exact {
    pool := by
      have hpool := Pool.alone_accept c.runner c.job u.pool
      rw [← h.pool] at hpool
      exact hpool.symm
    calls := hanswer.calls
    told := hanswer.told
    accepted := by
      have hacc := h.accepted
      simp [Dispatch.perform, Dispatch.answer, Pool.Log.note, hacc] }

/-- The submission of all has gone to a gate to which that of the runner alone does not follow. -/
theorem lag (h : Alone j vain u v) (hn : (u.calls.map (·.runner)).Nodup)
    (hk : u.calls[k]? = some c) (hc : c.runner = j) {next : Gate}
    (hnext : next = .scope ∨ vain' = true) : Alone j vain' (u.goTo k next) v := by
  obtain ⟨gate, hcalls, _⟩ := h.call hn hk hc
  refine ⟨h.pool, ?_, h.told, h.accepted⟩
  rw [callsOf_goTo hn hk hc]
  refine ⟨gate, hcalls, fun hfalse x hx => ?_⟩
  obtain rfl := List.mem_singleton.mp hx
  exact .inr (hnext.resolve_right (by simp [hfalse]))

/-- A move that ends no look leaves the look in vain if it was. -/
theorem next (h : Alone j (inVain j (m :: ms) u) u v) (hn : (u.calls.map (·.runner)).Nodup)
    (hend : ∀ gate, u.gate? j = some gate → gate ≠ .scope → u.lookEnd? j m = none) :
    Alone j (inVain j ms (u.take m)) u v := by
  refine h.mono fun x hx hs hfalse => ?_
  have hnone := hend x.2 (gate?_of_mem hn hx) hs
  simpa [inVain, hnone] using hfalse

theorem enter (h : Alone j vain u v) (hn : (u.calls.map (·.runner)).Nodup)
    (hk : u.calls[k]? = some c) (hc : c.runner = j) :
    Alone j vain' (u.take (.enter k)) (v.take (.enter 0)) := by
  obtain ⟨gate, hcalls, _⟩ := h.call hn hk hc
  have hget : v.calls[0]? = some ⟨0, c.job, gate⟩ := by simp [hcalls]
  have hcancelled : v.pool.cancelled = u.pool.cancelled := by
    rw [h.pool]
    rfl
  simp only [take, hk, hget, hcancelled]
  split
  · exact h.answer hn hk hc hcalls rfl
  · exact h.goTo hn hk hc hcalls .mark

theorem look (h : Alone j false u v) (hn : (u.calls.map (·.runner)).Nodup)
    (hk : u.calls[k]? = some c) (hc : c.runner = j) (hg : c.gate = .mark) :
    Alone j vain' (u.take (.look k)) (v.take (.look 0)) := by
  obtain ⟨gate, hcalls, hgate⟩ := h.call hn hk hc
  obtain rfl : gate = .mark := by simpa [hg, eq_comm] using hgate rfl
  have hget : v.calls[0]? = some ⟨0, c.job, .mark⟩ := by simp [hcalls]
  have hclosed : v.pool.isClosed 0 = u.pool.isClosed c.runner := by
    rw [h.pool, hc, Pool.alone_isClosed]
  simp only [take, hk, hget, hg, if_true, lookAt, hclosed]
  split
  · exact h.answer hn hk hc hcalls rfl
  · exact h.goTo hn hk hc hcalls .permit

/-- Where a permit is free for all, one is free for the runner alone. -/
theorem acquire (h : Alone j false u v) (hs : Sound limit u)
    (hn : (u.calls.map (·.runner)).Nodup) (hk : u.calls[k]? = some c) (hc : c.runner = j)
    (hg : c.gate = .permit) (hfree : 0 < u.pool.free) :
    Alone j vain' (u.take (.acquire k)) (v.take (.acquire 0)) := by
  obtain ⟨gate, hcalls, hgate⟩ := h.call hn hk hc
  obtain rfl : gate = .permit := by simpa [hg, eq_comm] using hgate rfl
  have hget : v.calls[0]? = some ⟨0, c.job, .permit⟩ := by simp [hcalls]
  have hfree' : 0 < v.pool.free := by
    have hpermits := hs.pool.permits
    have hle := Pool.length_activeOf_le j u.pool
    rw [h.pool]
    simp only [Pool.alone]
    omega
  simp only [take, hk, hget, hg, if_true, acquireAt, hfree, hfree']
  exact h.accept hn hk hc hcalls _ _

end Alone

theorem exists_call (hm : (u.calls[k]?).map (·.runner) = some j) :
    ∃ c, u.calls[k]? = some c ∧ c.runner = j := Option.map_eq_some_iff.mp hm

theorem allows_renumber {vain : Bool} (h : Alone j vain u v) (hm : u.Allows m)
    (hj : u.concerns j m = true) : v.Allows (u.renumber j m) := by
  have hphase : v.pool.phase? 0 = u.pool.phase? j := by rw [h.pool, Pool.alone_phase?]
  have hidle : u.IsIdle j → v.IsIdle 0 := by
    intro hidle
    obtain ⟨gate, hcalls, _⟩ := h.calls
    simp [IsIdle, hcalls, callsOf_of_idle hidle]
  cases m with
  | call i job | startWait i =>
    obtain rfl : i = j := by simpa [concerns, runner?] using hj
    exact ⟨hphase.trans hm.1, hidle hm.2⟩
  | drop i =>
    obtain rfl : i = j := by simpa [concerns, runner?] using hj
    have hopen : v.pool.phase? 0 = some .collecting ∨ v.pool.phase? 0 = some .waiting :=
      hphase ▸ hm.1
    exact ⟨hopen, hidle hm.2⟩
  | openRunner | enter | look | acquire | abandon | advance | await | cancel => trivial

namespace Alone

theorem call_step {vain vain' : Bool} (h : Alone j vain u v) {job : Job α}
    (hm : u.Allows (.call j job)) :
    Alone j vain' (u.take (.call j job)) (v.take (.call 0 job)) where
  pool := h.pool
  calls := by
    obtain ⟨gate, hcalls, _⟩ := h.calls
    have hnone := callsOf_of_idle hm.2
    have hnew : (u.take (.call j job)).callsOf j = [(job, .scope)] := by
      simp only [callsOf] at hnone
      simp [callsOf, take, hnone, Call.entry]
    rw [hnew]
    rw [hnone] at hcalls
    exact ⟨.scope, by simp [take, hcalls], by simp⟩
  told := h.told
  accepted := h.accepted

/-- A move that the runner alone makes as well. -/
theorem step (hu : Reached limit u) (h : Alone j (inVain j (m :: ms) u) u v)
    (hm : u.Allows m) (hkept : isKept j m ms u = true) :
    Alone j (inVain j ms (u.take m)) (u.take m) (v.take (u.renumber j m)) := by
  have hn := hu.calls_nodup
  have hs : Sound limit u := hu.sound
  have hown : u.concerns j m = true := (Bool.and_eq_true_iff.mp hkept).1
  have hwhole : m.isWhole = true → Alone j (inVain j ms (u.take m)) u v := by
    intro hwhole
    exact h.next hn fun gate hg hgs => lookEnd?_of_whole hg hgs hwhole
  cases m with
  | openRunner =>
    have hlen : u.pool.runners.length = j := by simpa [concerns, runner?] using hown
    exact (hwhole rfl).perform (Pool.alone_addRunner hlen) (by simp) (by simp)
  | call i job =>
    obtain rfl : i = j := by simpa [concerns, runner?] using hown
    exact h.call_step hm
  | enter k =>
    obtain ⟨c, hk, hc⟩ := exists_call (by simpa [concerns, runner?] using hown)
    exact h.enter hn hk hc
  | look k =>
    obtain ⟨c, hk, hc⟩ := exists_call (by simpa [concerns, runner?] using hown)
    have hgate := gate?_eq hn hk hc
    simp only [isKept, hown, hgate, Bool.true_and, Bool.and_eq_true, beq_iff_eq, Option.some.injEq,
      Bool.not_eq_true'] at hkept
    have hnext := h.next hn fun gate hg hgs => lookEnd?_look hg hgs
    rw [hkept.2] at hnext
    exact hnext.look hn hk hc hkept.1
  | acquire k =>
    obtain ⟨c, hk, hc⟩ := exists_call (by simpa [concerns, runner?] using hown)
    have hgate := gate?_eq hn hk hc
    simp only [isKept, hown, hgate, Bool.true_and, Bool.and_eq_true, beq_iff_eq, Option.some.injEq,
      decide_eq_true_eq] at hkept
    obtain ⟨hg, hfree⟩ := hkept
    -- this is the end of the look, and it finds a permit
    have hrunner : u.runner? (.acquire k) = some j := by simp [runner?, hk, hc]
    have hvain : inVain j (.acquire k :: ms) u = false := by
      have hne : u.pool.free ≠ 0 := Nat.ne_of_gt hfree
      simp [inVain, lookEnd?, hgate, hg, hrunner, hne]
    rw [hvain] at h
    exact h.acquire hs hn hk hc hg hfree
  | abandon k =>
    obtain ⟨c, hk, hc⟩ := exists_call (by simpa [concerns, runner?] using hown)
    obtain ⟨gate, hcalls, _⟩ := h.call hn hk hc
    have hgone : (u.take (.abandon k)).callsOf j = [] := callsOf_answer hn hk hc .refused
    refine ⟨h.pool, ?_, h.told, h.accepted⟩
    rw [hgone]
    exact ⟨.scope, by simp [renumber, take, hcalls], by simp⟩
  | advance k =>
    obtain ⟨a, ha, howner⟩ : ∃ a, u.pool.active[k]? = some a ∧ a.owner = j :=
      Option.map_eq_some_iff.mp (by simpa [concerns, runner?] using hown)
    have hle : u.pool.active.length ≤ u.pool.limit := by
      have := hs.pool.permits
      omega
    exact (hwhole rfl).perform (Pool.alone_advance ha howner hle) (by simp) (by simp)
  | startWait i | drop i =>
    obtain rfl : i = j := by simpa [concerns, runner?] using hown
    exact (hwhole rfl).perform (Pool.alone_modifyRunner i _ u.pool) (by simp) (by simp)
  | await i =>
    obtain rfl : i = j := by simpa [concerns, runner?] using hown
    exact (hwhole rfl).perform (Pool.alone_await i u.pool) (by simp) (by simp)
  | cancel => exact (hwhole rfl).perform rfl (by simp) (by simp)

/-- A look in vain is none of the moves of the runner alone. -/
theorem skip_own (h : Alone j (inVain j (m :: ms) u) u v)
    (hn : (u.calls.map (·.runner)).Nodup) (hown : u.concerns j m = true)
    (hleft : isKept j m ms u = false) : Alone j (inVain j ms (u.take m)) (u.take m) v := by
  cases m with
  | enter k =>
    obtain ⟨c, hk, hc⟩ := exists_call (by simpa [concerns, runner?] using hown)
    simp only [isKept, hown, Bool.true_and, Bool.not_eq_false'] at hleft
    simp only [take, hk] at hleft ⊢
    split
    · -- a submission that is refused is in flight no more, so its look would have been kept
      rename_i hcancelled
      have hfalse : inVain j ms (u.answer k c .refused) = false :=
        inVain_of_idle (callsOf_answer hn hk hc .refused)
      simp [hcancelled, hfalse] at hleft
    · rename_i hcancelled
      simp only [hcancelled] at hleft
      exact h.lag hn hk hc (.inr hleft)
  | look k =>
    obtain ⟨c, hk, hc⟩ := exists_call (by simpa [concerns, runner?] using hown)
    have hgate := gate?_eq hn hk hc
    have hnext := h.next hn fun gate hg hgs => lookEnd?_look hg hgs
    by_cases hg : c.gate = .mark
    · simp only [isKept, hown, hgate, hg, Bool.true_and, beq_self_eq_true,
        Bool.not_eq_false'] at hleft
      simp only [take, hk, hg, if_true, lookAt] at hleft ⊢
      split
      · rename_i hclosed
        have hfalse : inVain j ms (u.answer k c .skipped) = false :=
          inVain_of_idle (callsOf_answer hn hk hc .skipped)
        simp [hclosed, hfalse] at hleft
      · rename_i hclosed
        simp only [hclosed] at hleft
        exact h.lag hn hk hc (.inr hleft)
    · have hsame : u.take (.look k) = u := by simp [take, hk, hg]
      rw [hsame] at hnext ⊢
      exact hnext
  | acquire k =>
    obtain ⟨c, hk, hc⟩ := exists_call (by simpa [concerns, runner?] using hown)
    have hgate := gate?_eq hn hk hc
    by_cases hg : c.gate = .permit
    · have hfree : ¬0 < u.pool.free := by
        simpa [isKept, hown, hgate, hg] using hleft
      simp only [take, hk, hg, if_true, acquireAt, hfree, if_false]
      exact h.lag hn hk hc (.inl rfl)
    · have hsame : u.take (.acquire k) = u := by simp [take, hk, hg]
      have hnext := h.next hn fun gate hg' hgs => by
        obtain rfl : c.gate = gate := Option.some.inj (hgate.symm.trans hg')
        exact lookEnd?_acquire hg' hgs hg
      rw [hsame] at hnext ⊢
      exact hnext
  | openRunner | call | abandon | advance | startWait | await | drop | cancel =>
    simp [isKept, hown] at hleft

theorem skip (hu : Reached limit u) (h : Alone j (inVain j (m :: ms) u) u v)
    (hm : u.Allows m) (hleft : isKept j m ms u = false) :
    Alone j (inVain j ms (u.take m)) (u.take m) v := by
  have hn := hu.calls_nodup
  have hnow : Reached limit (u.take m) := hu.tail ⟨m, hm, rfl⟩
  by_cases hown : u.concerns j m = true
  · exact h.skip_own hn hown hleft
  · have hcancel : m ≠ .cancel := by
      rintro rfl
      exact hown rfl
    have hother : u.runner? m ≠ some j := by
      cases m with
      | cancel => exact absurd rfl hcancel
      | _ => simpa [concerns] using hown
    have hlimit : (u.take m).pool.limit = u.pool.limit :=
      hnow.sound.pool.limit.trans hu.sound.pool.limit.symm
    have hnext := h.next hn fun gate hg hgs => lookEnd?_of_ne hg hgs hother
    exact hnext.of_untouched (.take hu.sound hother) hlimit (cancelled_take hcancel)

end Alone

/-- What all have done together one of them has done alone, as far as it is concerned. -/
theorem alone_play (hu : Reached limit u) (h : Alone j (inVain j ms u) u v) (hp : Plays ms u) :
    Plays (ownMoves j ms u) v ∧ Alone j false (u.play ms) (v.play (ownMoves j ms u)) := by
  -- on the moves still to come, which tell whether the look that is going on is in vain
  induction ms generalizing u v with
  | nil => exact ⟨trivial, h⟩
  | cons m ms ih =>
    obtain ⟨hm, hp⟩ := hp
    have hnext : Reached limit (u.take m) := hu.tail ⟨m, hm, rfl⟩
    cases hkept : isKept j m ms u with
    | false =>
      have hown : ownMoves j (m :: ms) u = ownMoves j ms (u.take m) := by simp [ownMoves, hkept]
      rw [hown]
      exact ih hnext (h.skip hu hm hkept) hp
    | true =>
      have hown : ownMoves j (m :: ms) u = u.renumber j m :: ownMoves j ms (u.take m) := by
        simp [ownMoves, hkept]
      have hj : u.concerns j m = true := (Bool.and_eq_true_iff.mp hkept).1
      obtain ⟨hplays, hend⟩ := ih hnext (h.step hu hm hkept) hp
      rw [hown]
      exact ⟨⟨allows_renumber h hm hj, hplays⟩, hend⟩

structure RunsAlone (limit j : Nat) (ms : List (Move α)) : Prop where
  plays : Plays (ownMoves j ms (start limit)) (start limit)
  pool : ((start limit).play (ownMoves j ms (start limit))).pool =
    ((start limit).play ms).pool.alone j
  told : ((start limit).play (ownMoves j ms (start limit))).toldOf 0 =
    ((start limit).play ms).toldOf j
  accepted : ((start limit).play (ownMoves j ms (start limit))).log.acceptedBy 0 =
    ((start limit).play ms).log.acceptedBy j
  outcome : ((start limit).play (ownMoves j ms (start limit))).pool.settled? 0 =
    ((start limit).play ms).pool.settled? j

structure Isolated (limit : Nat) (ms : List (Move α)) : Prop where
  untouched : ∀ m j, ((start limit).play ms).runner? m ≠ some j →
    Untouched j ((start limit).play ms) (((start limit).play ms).take m)
  uncancelled : ∀ m, m ≠ .cancel →
    (((start limit).play ms).take m).pool.cancelled = ((start limit).play ms).pool.cancelled
  alone : ∀ j, RunsAlone limit j ms

theorem runners_isolated {ms : List (Move α)} (h : Plays ms (start limit)) : Isolated limit ms where
  untouched m j hm := by
    have hr : Reached limit ((start limit).play ms) := reaches_play h
    exact .take hr.sound hm
  uncancelled m hm := cancelled_take hm
  alone j := by
    have hidle : inVain j ms (Dispatch.start limit) = false := inVain_of_idle rfl
    have hstart : Alone j (inVain j ms (Dispatch.start limit)) (start limit : Dispatch α)
        (start limit) := hidle ▸ Alone.start j limit
    obtain ⟨hplays, hend⟩ := alone_play .refl hstart h
    exact {
      plays := hplays
      pool := hend.pool
      told := hend.told
      accepted := hend.accepted
      outcome := by rw [hend.pool, Pool.alone_settled?] }

/-- The two runners share one permit. A job of the first fails with it, and the second waits for
the permit meanwhile: its first look is in vain. -/
def sharingMoves : List (Move Nat) :=
  [.openRunner, .openRunner, .call 0 ⟨.failure (.auth "expired"), .none⟩, .enter 0, .look 0, .acquire 0,
    .call 1 ⟨.value 7, .none⟩, .enter 0, .look 0, .acquire 0, .advance 0, .enter 0, .advance 0,
    .look 0, .advance 0, .acquire 0, .call 0 ⟨.value 8, .none⟩, .enter 0, .look 0, .startWait 0,
    .await 0, .await 0, .startWait 1, .advance 0, .await 1, .await 1]

theorem sharingMoves_isolated :
    Plays sharingMoves (start 1) ∧
    ownMoves 1 sharingMoves (start 1) = [.openRunner, .call 0 ⟨.value 7, .none⟩, .enter 0, .look 0,
      .acquire 0, .startWait 0, .advance 0, .await 0, .await 0] ∧
    ((start 1).play sharingMoves).pool.settled? 0 = some (.error (.auth "expired")) ∧
    ((start 1).play sharingMoves).pool.settled? 1 = some (.ok [7]) ∧
    Isolated 1 sharingMoves := by
  have hplays : Plays sharingMoves (start 1) := by decide
  exact ⟨hplays, rfl, rfl, rfl, runners_isolated hplays⟩

end CloudInventory.Dispatch
