import CloudInventory.Proofs.Fairness
import CloudInventory.Proofs.Pool.Line
import CloudInventory.Proofs.Pool.Turns
import CloudInventory.Proofs.Pool.Work

/-! A pool of one permit runs the jobs of its one runner as they would run one by one: in the order
of their submission, up to and including the first that fails, and to the same outcome. The jobs
end whenever they do, before or after the looks of the submissions that come next. -/

namespace CloudInventory

/-- Jobs that are submitted in order to the one runner of a pool, which is waited for then. -/
structure Batch (α : Type) where
  todo : List (Job α)
  use : Dispatch α

namespace Batch

inductive Move where
  | submit
  | look
  | advance (k : Nat)
  | startWait
  | await

def start (jobs : List (Job α)) : Batch α := ⟨jobs, (Dispatch.start 1).take .openRunner⟩

/-- Every submission has its answer before the next one is made, and all of them before the wait;
a move that is not there to be made leaves all as it is. -/
def take (m : Move) (b : Batch α) : Batch α :=
  match m with
  | .submit =>
    match b.todo, b.use.calls with
    | job :: todo, [] => ⟨todo, b.use.take (.call 0 job)⟩
    | _, _ => b
  | .look => { b with use := b.use.poll 0 }
  | .advance k => { b with use := b.use.take (.advance k) }
  | .startWait =>
    match b.todo, b.use.calls, b.use.pool.phase? 0 with
    | [], [], some .collecting => { b with use := b.use.take (.startWait 0) }
    | _, _, _ => b
  | .await => { b with use := b.use.take (.await 0) }

def course (σ : Nat → Move) (b : Batch α) : Nat → Batch α
  | 0 => b
  | n + 1 => (b.course σ n).take (σ n)

def allMoves : List Move := [.submit, .look, .advance 0, .startWait, .await]

/-- Every kind of move comes again and again, and with these every job gets on. -/
def Fair (σ : Nat → Move) : Prop := ∀ m ∈ allMoves, Recurs σ m

/-- The jobs that have been accepted, each of which runs. -/
def executed (b : Batch α) : List (Job α) := b.use.log.acceptedBy 0

def outcome? (b : Batch α) : Option (Except Error (List α)) := b.use.pool.settled? 0

/-- The jobs without an answer, with the one that is being submitted. -/
def rest (b : Batch α) : List (Job α) := b.use.calls.map (·.job) ++ b.todo

variable {α : Type} {k : Nat} {jobs : List (Job α)} {b : Batch α}

structure Ordered (jobs : List (Job α)) (b : Batch α) : Prop where
  reached : Dispatch.Reached 1 b.use
  uncancelled : b.use.pool.cancelled = false
  single : b.use.pool.runners.length = 1
  calls : ∀ c ∈ b.use.calls, c.runner = 0 ∧ c.gate = .scope
  phase : b.use.pool.phase? 0 = some .collecting ∨ b.rest = [] ∧
    (b.use.pool.phase? 0 = some .waiting ∨ ∃ outcome, b.use.pool.phase? 0 = some (.settled outcome))
  answers : ∀ x ∈ b.use.answers, x.verdict.isOk = true
  lined : Pool.Lined jobs b.use.log b.use.pool b.rest

namespace Ordered

theorem start (jobs : List (Job α)) : Ordered jobs (start jobs) where
  reached := .single ⟨.openRunner, trivial, rfl⟩
  uncancelled := rfl
  single := rfl
  calls := by simp [Batch.start, Dispatch.start, Dispatch.take, Dispatch.perform]
  phase := .inl rfl
  answers := by simp [Batch.start, Dispatch.start, Dispatch.take, Dispatch.perform]
  lined := ⟨[], rfl, rfl, rfl, .idle rfl (by simp)⟩

theorem owner_eq (h : Ordered jobs b) {a : Active α} (ha : a ∈ b.use.pool.active) :
    a.owner = 0 := by
  have hlt := h.reached.sound.pool.owner_lt ha
  rw [h.single] at hlt
  omega

/-- There is one permit, so nothing else is active where one is free. -/
theorem active_eq_nil (h : Ordered jobs b) (hf : 0 < b.use.pool.free) :
    b.use.pool.active = [] := by
  have hpermits : b.use.pool.free + b.use.pool.active.length = 1 :=
    h.reached.sound.pool.permits.trans h.reached.sound.pool.limit
  exact List.length_eq_zero_iff.mp (by omega)

/-- A submission that is left without an answer is where it has been. -/
theorem goTo_scope (h : Ordered jobs b) (k : Nat) : b.use.goTo k .scope = b.use := by
  have hsame : b.use.calls.modify k (fun c => { c with gate := .scope }) = b.use.calls := by
    refine List.ext_getElem? fun j => ?_
    rw [List.getElem?_modify]
    cases hc : b.use.calls[j]? with
    | none => rfl
    | some c =>
      have hgate := (h.calls c (List.mem_of_getElem? hc)).2
      by_cases hkj : k = j <;> simp [hkj, ← hgate]
  rw [Dispatch.goTo, hsame]

theorem answered (h : Ordered jobs b) (c : Call α) {verdict : Verdict}
    (hv : verdict.isOk = true) :
    ∀ x ∈ (b.use.answer 0 c verdict).answers, x.verdict.isOk = true := by
  intro x hx
  rcases List.mem_append.mp hx with hx | hx
  · exact h.answers x hx
  · obtain rfl := List.mem_singleton.mp hx
    exact hv

theorem submit (h : Ordered jobs b) : Ordered jobs (b.take .submit) := by
  simp only [Batch.take]
  split
  · rename_i job todo htodo hcalls
    have hcollecting : b.use.pool.phase? 0 = some .collecting := by
      refine h.phase.resolve_right fun hrest => ?_
      simp [rest, htodo] at hrest
    have hallowed : b.use.Allows (.call 0 job) := ⟨hcollecting, by simp [Dispatch.IsIdle, hcalls]⟩
    have hrest : rest ⟨todo, b.use.take (.call 0 job)⟩ = b.rest := by
      simp [rest, Dispatch.take, hcalls, htodo]
    exact {
      reached := h.reached.tail ⟨.call 0 job, hallowed, rfl⟩
      uncancelled := h.uncancelled
      single := h.single
      calls := by simp [Dispatch.take, hcalls]
      phase := .inl hcollecting
      answers := h.answers
      lined := by rw [hrest]; exact h.lined }
  · exact h

theorem startWait (h : Ordered jobs b) : Ordered jobs (b.take .startWait) := by
  simp only [Batch.take]
  split
  · rename_i htodo hcalls hcollecting
    have hallowed : b.use.Allows (.startWait 0) := ⟨hcollecting, by simp [Dispatch.IsIdle, hcalls]⟩
    have hrest : b.rest = [] := by simp [rest, hcalls, htodo]
    have hlt := Pool.lt_of_phase?_eq_some hcollecting
    exact {
      reached := h.reached.tail ⟨.startWait 0, hallowed, rfl⟩
      uncancelled := h.uncancelled
      single := (List.length_modify _ _ _).trans h.single
      calls := h.calls
      phase := .inr ⟨hrest, .inl (Pool.phase?_modifyRunner_inPhase hlt)⟩
      answers := h.answers
      lined := h.lined.of_same rfl rfl rfl rfl
        (Pool.hasFailed_modifyRunner (f := (·.inPhase .waiting)) (fun _ => rfl) 0 0 _) }
  · exact h

theorem look (h : Ordered jobs b) : Ordered jobs (b.take .look) := by
  have hreached : Dispatch.Reached 1 (b.use.poll 0) := h.reached.poll 0
  simp only [Batch.take]
  cases hcalls : b.use.calls with
  | nil =>
    rw [Dispatch.poll_idle (by simp [hcalls])]
    exact h
  | cons c others =>
    have hget : b.use.calls[0]? = some c := by simp [hcalls]
    obtain ⟨hrunner, hgate⟩ := h.calls c (List.mem_of_getElem? hget)
    have hothers : ∀ d ∈ others, d.runner = 0 ∧ d.gate = .scope := by
      intro d hd
      exact h.calls d (by simp [hcalls, hd])
    have hcollecting : b.use.pool.phase? 0 = some .collecting := by
      refine h.phase.resolve_right fun hrest => ?_
      simp [rest, hcalls] at hrest
    have hline : Pool.Lined jobs b.use.log b.use.pool
        (c.job :: (others.map (·.job) ++ b.todo)) := by
      simpa [rest, hcalls] using h.lined
    rcases Dispatch.poll_verdicts hget with
      ⟨hcancelled, _⟩ | ⟨_, hfailed, hpoll⟩ | ⟨hopen, hfree, hpoll⟩ | ⟨_, hpoll⟩
    · simp [h.uncancelled] at hcancelled
    · have hleft : (b.use.answer 0 c .skipped).calls = others := by simp [Dispatch.answer, hcalls]
      rw [hrunner] at hfailed
      rw [hpoll] at hreached ⊢
      exact {
        reached := hreached
        uncancelled := h.uncancelled
        single := h.single
        calls := by rwa [hleft]
        phase := .inl hcollecting
        answers := h.answered c rfl
        lined := by
          rw [rest, hleft]
          exact hline.pass hfailed }
    · have hleft : ((b.use.answer 0 c (.accepted b.use.log.accepted.length)).perform
          (.accept c.runner c.job)).calls = others := by
        simp [Dispatch.perform, Dispatch.answer, hcalls]
      have hunfailed : b.use.pool.hasFailed 0 = false := by
        rw [hrunner] at hopen
        exact (Bool.or_eq_false_iff.mp hopen).2
      have hnext := hline.accept (h.active_eq_nil hfree) hunfailed
      rw [hpoll] at hreached ⊢
      exact {
        reached := hreached
        uncancelled := h.uncancelled
        single := (List.length_modify _ _ _).trans h.single
        calls := by rwa [hleft]
        phase := .inl ((Pool.phase?_accept c.job).trans hcollecting)
        answers := h.answered c rfl
        lined := by
          rw [rest, hleft]
          rw [← hrunner] at hnext
          exact hnext }
    · rw [hpoll, h.goTo_scope]
      exact h

theorem advance (h : Ordered jobs b) (hjobs : ∀ x ∈ jobs, x.ending.isPanic = false) (k : Nat) :
    Ordered jobs (b.take (.advance k)) where
  reached := h.reached.tail ⟨.advance k, trivial, rfl⟩
  uncancelled := (Pool.cancelled_advance k b.use.pool).trans h.uncancelled
  single := (Pool.length_runners_act (m := .advance k) (by simp)).trans h.single
  calls := h.calls
  phase := by
    have hphase : (b.take (.advance k)).use.pool.phase? 0 = b.use.pool.phase? 0 :=
      Pool.phase?_advance
    rw [hphase]
    exact h.phase
  answers := h.answers
  lined := h.lined.advance hjobs (fun a ha => h.owner_eq ha) (by simp [h.single]) k

theorem executed_eq (h : Ordered jobs b) : ∃ done, b.use.log.ended = List.range done.length ∧
    b.executed = done ++ b.use.pool.active.map (·.job) ∧
    Line jobs done b.use.pool.active (b.use.pool.hasFailed 0) b.rest := by
  obtain ⟨done, hacc, hended, _, hline⟩ := h.lined
  refine ⟨done, hended, ?_, hline⟩
  rw [executed, Pool.Log.acceptedBy, hacc, ownedBy_map_mk]

theorem executed_initial (h : Ordered jobs b) : b.executed <+: (oneByOne jobs).1 := by
  obtain ⟨done, _, hexecuted, hline⟩ := h.executed_eq
  rw [hexecuted]
  exact hline.executed

theorem mem_endings (h : Ordered jobs b) {r : Runner α} (hr : b.use.pool.runners[0]? = some r)
    {x : Ending α} (hx : x ∈ r.endings) : ∃ job ∈ jobs, job.ending = x := by
  have hs := h.reached.sound.pool
  rw [(hs.runners 0 r hr).endings] at hx
  obtain ⟨job, hjob, rfl⟩ := List.mem_map.mp hx
  have hexecuted : job ∈ b.executed :=
    (hs.acceptedBy_perm 0).mem_iff.mpr (List.mem_append_left _ hjob)
  have hinitial := h.executed_initial.trans (oneByOne_initial jobs)
  exact ⟨job, hinitial.subset hexecuted, rfl⟩

/-- A job that panics would mark the runner as the wait takes it in; here none does. -/
theorem hasFailed_await (h : Ordered jobs b) (hjobs : ∀ x ∈ jobs, x.ending.isPanic = false) :
    (b.use.pool.await 0).hasFailed 0 = b.use.pool.hasFailed 0 := by
  rcases Pool.await_cases 0 b.use.pool with
    ⟨ha, _⟩ | ⟨r, hr, _, ⟨_, _, ha⟩ | ⟨_, x, hx, _, ha⟩ | ⟨_, _, _, _, ha⟩⟩
  · rw [ha]
  · rw [ha]
    exact Pool.hasFailed_modifyRunner
      (f := (·.inPhase (.settled (.error .cancelled)))) (fun _ => rfl) 0 0 _
  · obtain ⟨job, hjob, hending⟩ := h.mem_endings hr (List.mem_of_getElem? hx)
    rw [ha]
    exact Pool.hasFailed_join hr hx (hending ▸ hjobs job hjob)
  · rw [ha]
    exact Pool.hasFailed_modifyRunner (f := (·.inPhase (.settled r.outcome))) (fun _ => rfl) 0 0 _

theorem await (h : Ordered jobs b) (hjobs : ∀ x ∈ jobs, x.ending.isPanic = false) :
    Ordered jobs (b.take .await) := by
  obtain ⟨hactive, _⟩ := Pool.active_await 0 b.use.pool
  obtain ⟨hrun, hend⟩ := Pool.Log.tickets_joined (i := 0) (b.use.pool.joins? 0) b.use.log
  have hacc := Pool.Log.accepted_note (m := .await 0) (by simp) b.use.pool b.use.log
  exact {
    reached := h.reached.tail ⟨.await 0, trivial, rfl⟩
    uncancelled := (Pool.cancelled_await 0 b.use.pool).trans h.uncancelled
    single := (Pool.length_runners_act (m := .await 0) (by simp)).trans h.single
    calls := h.calls
    phase := by
      rcases Pool.phase?_await 0 b.use.pool with hsame | ⟨hwaiting, hsettles⟩
      · have hphase : (b.take .await).use.pool.phase? 0 = b.use.pool.phase? 0 := hsame
        rw [hphase]
        exact h.phase
      · have hrest : b.rest = [] := by
          rcases h.phase with hcollecting | ⟨hrest, _⟩
          · rw [hcollecting] at hwaiting
            cases hwaiting
          · exact hrest
        exact .inr ⟨hrest, .inr hsettles⟩
    answers := h.answers
    lined := h.lined.of_same hacc hrun hend hactive (h.hasFailed_await hjobs) }

theorem take (h : Ordered jobs b) (hjobs : ∀ x ∈ jobs, x.ending.isPanic = false) (m : Move) :
    Ordered jobs (b.take m) := by
  cases m with
  | submit => exact h.submit
  | look => exact h.look
  | advance k => exact h.advance hjobs k
  | startWait => exact h.startWait
  | await => exact h.await hjobs

theorem course (h : Ordered jobs b) (hjobs : ∀ x ∈ jobs, x.ending.isPanic = false) (σ : Nat → Move)
    (n : Nat) : Ordered jobs (b.course σ n) := by
  induction n with
  | zero => exact h
  | succ n ih => exact ih.take hjobs (σ n)

theorem outcome_eq (h : Ordered jobs b) {outcome : Except Error (List α)}
    (ho : b.outcome? = some outcome) : b.executed = (oneByOne jobs).1 ∧
      b.use.log.ended = List.range b.executed.length ∧ outcome = (oneByOne jobs).2 := by
  have hs := h.reached.sound.pool
  have hphase := Pool.settled?_eq_some.mp ho
  have hrest : b.rest = [] := by
    rcases h.phase with hcollecting | ⟨hrest, _⟩
    · rw [hcollecting] at hphase
      cases hphase
    · exact hrest
  obtain ⟨r, hr, hsettled⟩ := Pool.Sound.exists_runner hphase
  have hrunner := hs.runners 0 r hr
  obtain ⟨rfl, hquiet⟩ : outcome = r.outcome ∧ ∀ a ∈ b.use.pool.active, a.owner ≠ 0 := by
    rcases hrunner.settled _ hsettled with ⟨_, hcancelled⟩ | ⟨hout, _, hquiet⟩
    · simp [h.uncancelled] at hcancelled
    · exact ⟨hout, hquiet⟩
  -- the wait has seen no job of the runner active, so all that were accepted have ended
  have hactive : b.use.pool.active = [] :=
    List.eq_nil_iff_forall_not_mem.mpr fun a ha => hquiet a ha (h.owner_eq ha)
  obtain ⟨done, hacc, hended, _, hline⟩ := h.lined
  rw [hactive, List.map_nil, List.append_nil] at hacc
  rw [hactive, hrest] at hline
  obtain ⟨hdone, hresult⟩ := hline.finished
  have hexecuted : b.executed = done := by rw [executed, Pool.Log.acceptedBy, hacc, ownedBy_map_mk]
  have hendings : r.endings = done.map Job.ending := by
    have hlen : b.use.log.ended = List.range b.use.log.accepted.length := by simp [hacc, hended]
    rw [hrunner.endings, Pool.Log.endedOf, Pool.Log.tasks, hlen, filterMap_getElem?_range, hacc,
      ownedBy_map_mk]
  have herrors : (b.use.log.errorsOf 0).Perm (done.filterMap (·.ending.error?)) := by
    rw [← hexecuted]
    exact hs.recorded_perm h.reached.told h.uncancelled hphase
  refine ⟨hexecuted.trans hdone.symm, hexecuted ▸ hended, ?_⟩
  rw [Runner.outcome, hrunner.first, Runner.values, hendings, List.filterMap_map]
  rcases hresult with ⟨hvalues, hnone⟩ | ⟨e, herror, hone⟩
  · rw [hnone] at herrors
    simp [herrors.eq_nil, hvalues]
  · rw [hone] at herrors
    simp [herrors.eq_singleton, herror]

end Ordered

section Progress

def phaseLeft : Option (Phase α) → Nat
  | some .collecting => 2
  | some .waiting => 1
  | _ => 0

/-- What is left to do: an accepted job brings its steps along. -/
def left (b : Batch α) : Nat :=
  6 * b.todo.length + 5 * b.use.calls.length + b.use.pool.work + phaseLeft (b.use.pool.phase? 0)

theorem submit_lowers {job : Job α} {todo : List (Job α)} (htodo : b.todo = job :: todo)
    (hcalls : b.use.calls = []) : (b.take .submit).left < b.left := by
  simp only [Batch.take, htodo, hcalls, left, Dispatch.take, List.nil_append, List.length_cons,
    List.length_nil]
  omega

theorem look_lowers (h : Ordered jobs b) :
    b.take .look = b ∧ (b.use.calls ≠ [] → b.use.pool.free = 0) ∨
      (b.take .look).left < b.left := by
  cases hcalls : b.use.calls with
  | nil =>
    have hidle : b.use.poll 0 = b.use := Dispatch.poll_idle (by simp [hcalls])
    exact .inl ⟨by simp [Batch.take, hidle], by simp⟩
  | cons c others =>
    have hget : b.use.calls[0]? = some c := by simp [hcalls]
    rcases Dispatch.poll_verdicts hget with
      ⟨hcancelled, _⟩ | ⟨_, _, hpoll⟩ | ⟨_, _, hpoll⟩ | ⟨hwait, hpoll⟩
    · simp [h.uncancelled] at hcancelled
    · right
      simp only [Batch.take, left, hpoll, Dispatch.answer, hcalls, List.eraseIdx_zero,
        List.tail_cons, List.length_cons]
      omega
    · right
      have hwork := Pool.work_accept c.runner c.job b.use.pool
      have hphase : (b.use.pool.accept c.runner c.job).phase? 0 = b.use.pool.phase? 0 :=
        Pool.phase?_accept c.job
      simp only [Batch.take, left, hpoll, Dispatch.perform, Dispatch.answer, Pool.act, hcalls,
        hphase, List.eraseIdx_zero, List.tail_cons, List.length_cons]
      omega
    · left
      rw [h.goTo_scope] at hpoll
      exact ⟨by simp [Batch.take, hpoll], fun _ => hwait.1⟩

theorem advance_lowers {a : Active α} (ha : b.use.pool.active[k]? = some a) :
    (b.take (.advance k)).left < b.left := by
  have hwork := Pool.work_advance ha
  simp only [Batch.take, left, Dispatch.take, Dispatch.perform, Pool.act, Pool.phase?_advance]
  omega

theorem startWait_lowers (htodo : b.todo = []) (hcalls : b.use.calls = [])
    (hp : b.use.pool.phase? 0 = some .collecting) : (b.take .startWait).left < b.left := by
  have hwaiting : (b.use.pool.startWait 0).phase? 0 = some .waiting :=
    Pool.phase?_modifyRunner_inPhase (Pool.lt_of_phase?_eq_some hp)
  have hwork : (b.use.pool.startWait 0).work ≤ b.use.pool.work :=
    Pool.work_modifyRunner fun _ => Nat.le_refl _
  simp only [Batch.take, left, htodo, hcalls, hp, Dispatch.take, Dispatch.perform, Pool.act,
    hwaiting, phaseLeft]
  omega

theorem await_lowers : b.take .await = b ∧
      (b.use.pool.phase? 0 = some .waiting → b.use.pool.hasActive 0 = true) ∨
    (b.take .await).left < b.left := by
  have hmove : b.take .await = { b with use := { b.use with
    pool := b.use.pool.await 0
    log := b.use.log.joined 0 (b.use.pool.joins? 0) } } := rfl
  rcases Pool.await_cases 0 b.use.pool with ⟨ha, hj, hquiet⟩ | ⟨r, hr, hphase, hcase⟩
  · rw [ha, hj] at hmove
    exact .inl ⟨hmove, hquiet⟩
  · right
    have hlt := (List.getElem?_eq_some_iff.mp hr).1
    have hwaiting : b.use.pool.phase? 0 = some .waiting := by simp [Pool.phase?, hr, hphase]
    have hsettles : ∀ outcome, b.use.pool.await 0 =
        b.use.pool.modifyRunner 0 (·.inPhase (.settled outcome)) →
          (b.take .await).left < b.left := by
      intro outcome ha
      have hwork : (b.use.pool.modifyRunner 0 (·.inPhase (.settled outcome))).work ≤
          b.use.pool.work := Pool.work_modifyRunner fun _ => Nat.le_refl _
      simp only [hmove, left, ha, hwaiting, Pool.phase?_modifyRunner_inPhase hlt, phaseLeft]
      omega
    rcases hcase with ⟨_, _, ha⟩ | ⟨_, x, hx, _, ha⟩ | ⟨_, _, _, _, ha⟩
    · exact hsettles _ ha
    · have hwork := Pool.work_join hr hx
      have hsame : (b.use.pool.modifyRunner 0 Runner.join).phase? 0 = b.use.pool.phase? 0 :=
        Pool.phase?_modifyRunner_of_keeps Pool.join_phase
      simp only [hmove, left, ha, hsame]
      omega
    · exact hsettles _ ha

theorem take_lowers (h : Ordered jobs b) (m : Move) : b.take m = b ∨ (b.take m).left < b.left := by
  cases m with
  | submit =>
    cases htodo : b.todo with
    | nil => exact .inl (by simp [Batch.take, htodo])
    | cons job todo =>
      cases hcalls : b.use.calls with
      | nil => exact .inr (submit_lowers htodo hcalls)
      | cons c others => exact .inl (by simp [Batch.take, htodo, hcalls])
  | look => exact (look_lowers h).imp_left And.left
  | advance k =>
    cases ha : b.use.pool.active[k]? with
    | none =>
      left
      simp [Batch.take, Dispatch.take, Dispatch.perform, Pool.act, Pool.advance, Pool.Log.note,
        Pool.Log.advanced, ha]
    | some a => exact .inr (advance_lowers ha)
  | startWait =>
    simp only [Batch.take]
    split
    · rename_i htodo hcalls hp
      have hlower := startWait_lowers htodo hcalls hp
      simp only [Batch.take, htodo, hcalls, hp] at hlower ⊢
      exact .inr hlower
    · exact .inl rfl
  | await => exact await_lowers.imp_left And.left

/-- Before the wait is over, one of the moves that recur changes something. -/
theorem exists_moves (h : Ordered jobs b) (ho : b.outcome? = none) :
    ∃ m ∈ allMoves, b.take m ≠ b := by
  have hne : ∀ m, (b.take m).left < b.left → b.take m ≠ b := by
    intro m hlower hsame
    rw [hsame] at hlower
    exact Nat.lt_irrefl _ hlower
  -- a job that holds the permit can go on; where there is none, the next submission or the wait can
  cases hactive : b.use.pool.active with
  | cons a others =>
    have ha : b.use.pool.active[0]? = some a := by simp [hactive]
    exact ⟨.advance 0, by simp [allMoves], hne _ (advance_lowers ha)⟩
  | nil =>
    have hfree : 0 < b.use.pool.free := h.reached.sound.pool.free_pos hactive
    by_cases hcalls : b.use.calls = []
    · cases htodo : b.todo with
      | cons job todo => exact ⟨.submit, by simp [allMoves], hne _ (submit_lowers htodo hcalls)⟩
      | nil =>
        rcases h.phase with hcollecting | ⟨_, hwaiting | ⟨outcome, hsettled⟩⟩
        · exact ⟨.startWait, by simp [allMoves], hne _ (startWait_lowers htodo hcalls hcollecting)⟩
        · rcases await_lowers (b := b) with ⟨_, hbusy⟩ | hlower
          · have := hbusy hwaiting
            simp [Pool.hasActive, hactive] at this
          · exact ⟨.await, by simp [allMoves], hne _ hlower⟩
        · rw [outcome?, Pool.settled?_eq_some.mpr hsettled] at ho
          cases ho
    · rcases look_lowers h with ⟨_, hnone⟩ | hlower
      · have := hnone hcalls
        omega
      · exact ⟨.look, by simp [allMoves], hne _ hlower⟩

end Progress

/-- Some of the jobs have started, in the order of their submission, and none of them before the
ones before it have ended. -/
structure InSequence (jobs : List (Job α)) (b : Batch α) : Prop where
  /-- Every submission that has its answer has been told that all is well. -/
  answers : ∀ x ∈ b.use.answers, x.verdict.isOk = true
  executed : b.executed <+: (oneByOne jobs).1
  ended : b.use.log.ended = List.range b.use.log.ended.length
  starts : ∀ m, (b.take m).executed = b.executed ∨
    (∃ job, (b.take m).executed = b.executed ++ [job]) ∧
      b.use.log.ended = List.range b.executed.length
  outcome : ∀ outcome, b.outcome? = some outcome → b.executed = (oneByOne jobs).1 ∧
    b.use.log.ended = List.range b.executed.length ∧ outcome = (oneByOne jobs).2

theorem Ordered.look_starts (h : Ordered jobs b) : (b.take .look).executed = b.executed ∨
    (∃ job, (b.take .look).executed = b.executed ++ [job]) ∧
      b.use.log.ended = List.range b.executed.length := by
  cases hget : b.use.calls[0]? with
  | none =>
    left
    simp only [Batch.take, Dispatch.poll_idle hget]
  | some c =>
    have hrunner := (h.calls c (List.mem_of_getElem? hget)).1
    rcases Dispatch.poll_verdicts hget with
      ⟨_, hpoll⟩ | ⟨_, _, hpoll⟩ | ⟨_, hfree, hpoll⟩ | ⟨_, hpoll⟩
    · exact .inl (by simp only [Batch.take, hpoll]; rfl)
    · exact .inl (by simp only [Batch.take, hpoll]; rfl)
    · right
      obtain ⟨done, hended, hexecuted, _⟩ := h.executed_eq
      rw [h.active_eq_nil hfree, List.map_nil, List.append_nil] at hexecuted
      have hlog : (b.take .look).use.log = b.use.log.accept 0 c.job := by
        simp only [Batch.take, hpoll, hrunner]
        rfl
      refine ⟨⟨c.job, ?_⟩, hexecuted ▸ hended⟩
      rw [executed, hlog, Pool.Log.acceptedBy_accept, if_pos rfl]
      rfl
    · exact .inl (by simp only [Batch.take, hpoll]; rfl)

theorem Ordered.inSequence (h : Ordered jobs b) : InSequence jobs b where
  answers := h.answers
  executed := h.executed_initial
  ended := by
    obtain ⟨done, hended, _⟩ := h.executed_eq
    simp [hended]
  starts m := by
    have hkeeps : ∀ a : Pool.Act α, (∀ i job, a ≠ .accept i job) →
        (b.use.perform a).log.acceptedBy 0 = b.executed := by
      intro a ha
      have hacc : (b.use.perform a).log.accepted = b.use.log.accepted :=
        Pool.Log.accepted_note ha b.use.pool b.use.log
      rw [Pool.Log.acceptedBy, hacc]
      rfl
    cases m with
    | submit =>
      left
      simp only [Batch.take]
      split <;> rfl
    | look => exact h.look_starts
    | advance k => exact .inl (hkeeps (.advance k) (by simp))
    | startWait =>
      left
      simp only [Batch.take]
      split <;> rfl
    | await => exact .inl (hkeeps (.await 0) (by simp))
  outcome _ ho := h.outcome_eq ho

/-- Whenever the jobs end, those that run are the jobs up to the first that fails, one after
another, and where every move comes again and again the wait returns what they come to. -/
theorem runs_one_by_one (jobs : List (Job α)) (hjobs : ∀ x ∈ jobs, x.ending.isPanic = false)
    (σ : Nat → Move) :
    (∀ n, InSequence jobs ((Batch.start jobs).course σ n)) ∧
    (Fair σ → ∃ n, ((Batch.start jobs).course σ n).outcome? = some (oneByOne jobs).2) := by
  have hordered := (Ordered.start jobs).course hjobs σ
  refine ⟨fun n => (hordered n).inSequence, fun hfair => ?_⟩
  obtain ⟨n, hn⟩ := exists_of_fair Batch.take id left (P := fun b => b.outcome? ≠ none)
    (s := (Batch.start jobs).course σ) (fun _ => rfl)
    (fun n _ => .inr (take_lowers (hordered n) (σ n))) fun n hopen => by
      obtain ⟨m, hm, hmoves⟩ := exists_moves (hordered n) (not_not.mp hopen)
      refine ⟨m, hfair m hm, fun a ha => ?_⟩
      obtain rfl : a = _ := ha
      exact hmoves
  obtain ⟨outcome, ho⟩ := Option.ne_none_iff_exists'.mp hn
  obtain ⟨_, _, rfl⟩ := (hordered n).outcome_eq ho
  exact ⟨n, ho⟩

/-- The second of three jobs fails. The third is submitted while the second still runs, so its
submission waits until the permit is back, and passes over the job. -/
def failingJobs : List (Job Nat) :=
  [⟨.value 7, .none⟩, ⟨.failure (.auth "expired"), .none⟩, ⟨.value 8, .none⟩]

theorem failingJobs_one_by_one :
    (∀ x ∈ failingJobs, x.ending.isPanic = false) ∧ Fair (cycle .submit allMoves) ∧
      ∃ n, ((Batch.start failingJobs).course (cycle .submit allMoves) n).outcome? =
        some (.error (.auth "expired")) := by
  have hjobs : ∀ x ∈ failingJobs, x.ending.isPanic = false := by decide
  have hfair : Fair (cycle .submit allMoves) := fun _ hm => recurs_cycle hm
  exact ⟨hjobs, hfair, (runs_one_by_one failingJobs hjobs (cycle .submit allMoves)).2 hfair⟩

end Batch

end CloudInventory
