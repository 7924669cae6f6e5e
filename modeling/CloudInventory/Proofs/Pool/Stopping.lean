import CloudInventory.Proofs.Pool.Turns

/-! Dispatch stops at the first error. Once a job of a runner has returned an error and marked its
runner, the runner accepts nothing any more: every submission to it is passed over, also one that
has been waiting for a permit, the jobs accepted before run to their ends, and no wait returns
their values. -/

namespace CloudInventory.Dispatch

variable {α : Type} {limit i k : Nat} {u v w : Dispatch α} {c : Call α}

def submitted? (i : Nat) (u : Dispatch α) : Option Nat := (u.pool.runners[i]?).map (·.submitted)

theorem hasFailed_reaches (h : Reached limit u) (hv : Relation.ReflTransGen Step u v)
    (hf : u.pool.hasFailed i = true) : v.pool.hasFailed i = true := by
  induction hv with
  | refl => exact hf
  | @tail v w hv hstep ih =>
    obtain ⟨m, hm, rfl⟩ := hstep
    have hs : Sound limit v := Reached.sound (Relation.ReflTransGen.trans h hv)
    rcases take_acts hs hm with ⟨hpool, _⟩ | ⟨a, _, hpool, _⟩
    · exact hpool ▸ ih
    · exact hpool ▸ Pool.hasFailed_act a ih

/-- The answers that come between two states to submissions to a failed runner. -/
def Passes (i : Nat) (u v : Dispatch α) : Prop :=
  ∃ late, v.answers = u.answers ++ late ∧ ∀ x ∈ late, x.runner = i →
    x.verdict = .skipped ∨ x.verdict = .refused ∧ v.pool.cancelled = true

theorem Passes.of_same (h : v.answers = u.answers) : Passes i u v := ⟨[], by simp [h], by simp⟩

theorem Passes.trans (h : Passes i u v) (h' : Passes i v w)
    (hc : v.pool.cancelled = true → w.pool.cancelled = true) : Passes i u w := by
  obtain ⟨late, hlate, hpass⟩ := h
  obtain ⟨more, hmore, hnext⟩ := h'
  refine ⟨late ++ more, by rw [hmore, hlate, List.append_assoc], fun x hx hi => ?_⟩
  rcases List.mem_append.mp hx with hx | hx
  · exact (hpass x hx hi).imp_right fun hrefused => ⟨hrefused.1, hc hrefused.2⟩
  · exact hnext x hx hi

theorem passes_answer {verdict : Verdict} (hv : c.runner = i → verdict = .skipped ∨
    verdict = .refused ∧ u.pool.cancelled = true) : Passes i u (u.answer k c verdict) := by
  refine ⟨[⟨c.runner, c.job, verdict⟩], rfl, fun x hx hi => ?_⟩
  obtain rfl := List.mem_singleton.mp hx
  exact hv hi

theorem poll_passes (hf : u.pool.hasFailed i = true) (k : Nat) :
    Passes i u (u.poll k) ∧ (u.poll k).log.acceptedBy i = u.log.acceptedBy i := by
  cases hk : u.calls[k]? with
  | none =>
    rw [poll_idle hk]
    exact ⟨.of_same rfl, rfl⟩
  | some c =>
    rcases poll_verdicts hk with ⟨hc, hpoll⟩ | ⟨_, _, hpoll⟩ | ⟨hopen, _, hpoll⟩ | ⟨_, hpoll⟩
    · rw [hpoll]
      exact ⟨passes_answer fun _ => .inr ⟨rfl, hc⟩, rfl⟩
    · rw [hpoll]
      exact ⟨passes_answer fun _ => .inl rfl, rfl⟩
    · -- only a runner that has not failed has its submission accepted
      have hne : c.runner ≠ i := by
        rintro rfl
        simp [Pool.isClosed, hf] at hopen
      rw [hpoll]
      exact ⟨passes_answer fun hi => absurd hi hne,
        by simp [perform, answer, Pool.Log.note, hne]⟩
    · rw [hpoll]
      exact ⟨.of_same rfl, rfl⟩

theorem turn_passes (hf : u.pool.hasFailed i = true) {t : Turn α} (ht : u.AllowsTurn t) :
    Passes i u (u.turn t) ∧ (u.turn t).log.acceptedBy i = u.log.acceptedBy i := by
  cases t with
  | poll k => exact poll_passes hf k
  | move m =>
    obtain ⟨hacc, hans⟩ := take_whole ht.1 u
    exact ⟨.of_same hans, congrArg (ownedBy i) hacc⟩

theorem turns_pass (h : Reached limit u) (hf : u.pool.hasFailed i = true) (hv : Turns u v) :
    Passes i u v ∧ v.log.acceptedBy i = u.log.acceptedBy i := by
  induction hv with
  | refl => exact ⟨.of_same rfl, rfl⟩
  | @tail v w hv hturn ih =>
    obtain ⟨t, ht, rfl⟩ := hturn
    have hreaches : Relation.ReflTransGen Step u v := Turns.reaches hv
    have hnow : Reached limit v := Relation.ReflTransGen.trans h hreaches
    obtain ⟨hpass, hacc⟩ := turn_passes (hasFailed_reaches h hreaches hf) ht
    exact ⟨ih.1.trans hpass (cancelled_reaches hnow (reaches_turn ht)), hacc.trans ih.2⟩

theorem submitted?_eq (h : Reached limit u) (hf : u.pool.hasFailed i = true) :
    u.submitted? i = some (u.log.acceptedBy i).length := by
  obtain ⟨r, hr, _⟩ := (Option.any_eq_true _ _).mp hf
  simp [submitted?, hr, (h.sound.pool.runners i r hr).submitted]

theorem not_values_of_failed (h : Reached limit u) (hf : u.pool.hasFailed i = true)
    (values : List α) : u.pool.settled? i ≠ some (.ok values) := by
  intro hw
  obtain ⟨r, hr, hfail⟩ := (Option.any_eq_true _ _).mp hf
  have hnil := (h.sound.pool.settled_ok (Pool.settled?_eq_some.mp hw)).1
  exact (h.sound.pool.runners i r hr).failed hfail hnil

theorem poll_of_failed (hk : u.calls[k]? = some c) (hf : u.pool.hasFailed c.runner = true) :
    u.poll k = u.answer k c (if u.pool.cancelled then .refused else .skipped) := by
  have hclosed : u.pool.isClosed c.runner = true := by simp [Pool.isClosed, hf]
  rw [poll_eq hk, if_pos hclosed]
  split <;> rfl

/-- No ticket is lost: the body of its job has ended, or its own steps bring it to its end. -/
theorem ends_of_running (h : Reached limit u) (hv : Relation.ReflTransGen Step u v) {n : Nat}
    (hn : n ∈ u.log.running) : n ∈ v.log.ended ∨
      ∃ k b, v.log.running[k]? = some n ∧ v.pool.active[k]? = some b ∧
        ReturnsPermit k v (v.play (.replicate b.stepsLeft (.advance k))) := by
  -- the ticket stays among those that have ended or run, whatever has happened to the runner
  have hnow : Reached limit v := Relation.ReflTransGen.trans h hv
  have hlt : n < u.log.accepted.length :=
    h.sound.pool.running_lt n (List.mem_append_right _ hn)
  obtain ⟨_, haccepted⟩ := ended_prefix h hv
  have hle : u.log.accepted.length ≤ v.log.accepted.length := haccepted.length_le
  have hmem : n ∈ v.log.ended ++ v.log.running :=
    hnow.sound.pool.once.mem_iff.mpr (List.mem_range.mpr (Nat.lt_of_lt_of_le hlt hle))
  rcases List.mem_append.mp hmem with hend | hrun
  · exact .inl hend
  · obtain ⟨k, hk⟩ := List.mem_iff_getElem?.mp hrun
    have htask := congrArg (·[k]?) hnow.sound.pool.tasks
    simp only [List.getElem?_map, hk, Option.map_some] at htask
    obtain ⟨b, hb, _⟩ := Option.map_eq_some_iff.mp htask.symm
    exact .inr ⟨k, b, hk, hb, play_advance hnow hb⟩

/-- A runner that has stopped, with the job at `k` the one that has just marked it. -/
structure Stopped (limit i k : Nat) (u : Dispatch α) : Prop where
  /-- No job is accepted any more, so none of them begins to run. -/
  accepted : ∀ v, Turns u v → v.log.acceptedBy i = u.log.acceptedBy i
  submitted : ∀ v, Turns u v → v.submitted? i = u.submitted? i
  answers : ∀ v, Turns u v → Passes i u v
  /-- A look ends every submission to the runner, whether or not a permit is free. -/
  looks : ∀ v, Turns u v → ∀ k c, v.calls[k]? = some c → c.runner = i →
    v.poll k = v.answer k c (if v.pool.cancelled then .refused else .skipped)
  served : ∀ v, Turns u v → ∀ c ∈ v.serve.calls, c.runner ≠ i
  /-- The other jobs of the runner that hold a permit. -/
  others : ((u.pool.active.eraseIdx k).filter (·.owner = i)).length ≤ max 1 limit - 1
  ends : ∀ v, Turns u v → ∀ n ∈ u.log.running, n ∈ v.log.ended ∨
    ∃ k b, v.log.running[k]? = some n ∧ v.pool.active[k]? = some b ∧
      ReturnsPermit k v (v.play (.replicate b.stepsLeft (.advance k)))
  values : ∀ v, Turns u v → ∀ values, v.pool.settled? i ≠ some (.ok values)

theorem take_mark {a : Active α} (ha : u.pool.active[k]? = some a) (hn : a.next = .mark) :
    (u.take (.advance k)).pool = (u.pool.modifyRunner a.owner Runner.mark).moveTo k .marked := by
  simp [take, perform, Pool.act, Pool.advance, ha, hn]

theorem marks_runner {a : Active α} (h : Sound limit u) (ha : u.pool.active[k]? = some a)
    (hn : a.next = .mark) : (u.take (.advance k)).pool.hasFailed a.owner = true := by
  have hlt := h.pool.owner_lt (List.mem_of_getElem? ha)
  simp [take_mark ha hn, Pool.hasFailed, Pool.moveTo, Pool.modifyRunner,
    List.getElem?_eq_getElem hlt, Runner.mark]

theorem others_le (h : Sound limit u) (hk : k < u.pool.active.length) :
    ((u.pool.active.eraseIdx k).filter (·.owner = i)).length ≤ max 1 limit - 1 := by
  -- the limit counts the job at `k` as well, and every job that is active holds a permit
  have hpermits : u.pool.free + u.pool.active.length = max 1 limit :=
    h.pool.permits.trans h.pool.limit
  calc ((u.pool.active.eraseIdx k).filter (·.owner = i)).length
      ≤ (u.pool.active.eraseIdx k).length := List.length_filter_le _ _
    _ = u.pool.active.length - 1 := List.length_eraseIdx_of_lt hk
    _ ≤ max 1 limit - 1 := by omega

/-- The step in which a failed job marks its runner is the end of the runner's dispatch. -/
theorem dispatch_stops (h : Turns (start limit) u) {a : Active α}
    (ha : u.pool.active[k]? = some a) (hn : a.next = .mark) :
    Stopped limit a.owner k (u.take (.advance k)) := by
  have hbefore : Reached limit u := h.reaches
  have hmarked := marks_runner hbefore.sound ha hn
  have hnow : Reached limit (u.take (.advance k)) := hbefore.tail ⟨.advance k, trivial, rfl⟩
  have hfailed : ∀ v, Turns (u.take (.advance k)) v → v.pool.hasFailed a.owner = true :=
    fun v hv => hasFailed_reaches hnow hv.reaches hmarked
  have hlater : ∀ v, Turns (u.take (.advance k)) v → Reached limit v :=
    fun v hv => Relation.ReflTransGen.trans hnow hv.reaches
  exact {
    accepted := fun v hv => (turns_pass hnow hmarked hv).2
    submitted := fun v hv => by
      rw [submitted?_eq (hlater v hv) (hfailed v hv), submitted?_eq hnow hmarked,
        (turns_pass hnow hmarked hv).2]
    answers := fun v hv => (turns_pass hnow hmarked hv).1
    looks := fun v hv j c hc hi => poll_of_failed hc (hi ▸ hfailed v hv)
    served := fun v hv c hc hi => by
      have hopen : v.serve.pool.hasFailed c.runner = false := (serve_calls v c hc).2.1
      have hfail := hfailed v.serve (Relation.ReflTransGen.trans hv (turns_serve v))
      simp [hi, hfail] at hopen
    others := others_le hnow.sound (by
      rw [take_mark ha hn]
      simpa [Pool.moveTo, Pool.modifyRunner] using (List.getElem?_eq_some_iff.mp ha).1)
    ends := fun v hv n hn => ends_of_running hnow hv.reaches hn
    values := fun v hv => not_values_of_failed (hlater v hv) (hfailed v hv) }

/-- Two jobs hold both permits, and a third submission waits when the first job fails. -/
def failingTurns : List (Turn Nat) :=
  [.move .openRunner, .move (.call 0 ⟨.failure (.auth "expired"), .none⟩), .poll 0,
    .move (.call 0 ⟨.value 7, .none⟩), .poll 0, .move (.call 0 ⟨.value 8, .none⟩), .poll 0,
    .move (.advance 0)]

theorem failingTurns_stopped :
    let u := (start 2).playTurns failingTurns
    Turns (start 2) u ∧ u.pool.free = 0 ∧ u.calls.length = 1 ∧
      ((u.take (.advance 0)).poll 0).answers.map (·.verdict) =
        [.accepted 0, .accepted 1, .skipped] ∧
      Stopped 2 0 0 (u.take (.advance 0)) := by
  have hu : Turns (start 2) ((start 2).playTurns failingTurns) := turns_play (by decide)
  exact ⟨hu, rfl, rfl, rfl, dispatch_stops hu (a := ⟨0, ⟨.failure (.auth "expired"), .none⟩, .recorded⟩)
    rfl rfl⟩

end CloudInventory.Dispatch
