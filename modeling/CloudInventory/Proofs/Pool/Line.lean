import CloudInventory.Proofs.Pool.Errors
import CloudInventory.Proofs.Pool.Work

/-! Jobs in line. Where one permit is all there is, the jobs of a runner run one after another in
the order of their submission, and the first that fails is the last that runs. -/

namespace CloudInventory

variable {α : Type}

def Job.IsValue (job : Job α) : Prop := ∃ a, job.ending = .value a

/-- The jobs that run where they run one by one and stop at the first that comes to no value, and
what they come to. -/
def oneByOne : List (Job α) → List (Job α) × Except Error (List α)
  | [] => ([], .ok [])
  | job :: jobs =>
    match job.ending with
    | .value a => (job :: (oneByOne jobs).1, (oneByOne jobs).2.map (a :: ·))
    | .failure e => ([job], .error e)
    | .panic report => ([job], .error (.task report))

section OneByOne

variable {done rest : List (Job α)} {job : Job α} {e : Error}

theorem errors_of_values (h : ∀ x ∈ done, x.IsValue) : done.filterMap (·.ending.error?) = [] := by
  refine List.filterMap_eq_nil_iff.mpr fun x hx => ?_
  obtain ⟨a, ha⟩ := h x hx
  simp [ha, Ending.error?]

/-- Jobs that come to values run, and those after them run as they would without them. -/
theorem oneByOne_append (h : ∀ x ∈ done, x.IsValue) :
    oneByOne (done ++ rest) = (done ++ (oneByOne rest).1,
      (oneByOne rest).2.map (done.filterMap (·.ending.value?) ++ ·)) := by
  induction done with
  | nil => cases hrest : (oneByOne rest).2 <;> simp [Except.map, ← hrest]
  | cons x xs ih =>
    obtain ⟨a, ha⟩ := h x List.mem_cons_self
    have hxs := ih fun y hy => h y (List.mem_cons_of_mem _ hy)
    cases hrest : (oneByOne rest).2 <;> simp [oneByOne, ha, hxs, hrest, Ending.value?, Except.map]

theorem oneByOne_values (h : ∀ x ∈ done, x.IsValue) :
    oneByOne done = (done, .ok (done.filterMap (·.ending.value?))) := by
  have happend : oneByOne (done ++ []) = _ := oneByOne_append h
  simpa [oneByOne, Except.map] using happend

theorem oneByOne_failure (h : ∀ x ∈ done, x.IsValue) (he : job.ending = .failure e) :
    oneByOne (done ++ job :: rest) = (done ++ [job], .error e) := by
  rw [oneByOne_append h]
  simp [oneByOne, he, Except.map]

theorem oneByOne_initial (jobs : List (Job α)) : (oneByOne jobs).1 <+: jobs := by
  induction jobs with
  | nil => exact List.prefix_refl []
  | cons job jobs ih => cases he : job.ending <;> simp [oneByOne, he, ih]

theorem oneByOne_head (job : Job α) (rest : List (Job α)) :
    [job] <+: (oneByOne (job :: rest)).1 := by
  cases he : job.ending <;> simp [oneByOne, he]

end OneByOne

/-- How far jobs in line have come: `done` have ended, `active` holds the permit, and `rest` are
still to be submitted. -/
inductive Line (jobs : List (Job α)) :
    List (Job α) → List (Active α) → Bool → List (Job α) → Prop
  | idle {done rest} : jobs = done ++ rest → (∀ x ∈ done, x.IsValue) → Line jobs done [] false rest
  | running {done a rest} : jobs = done ++ a.job :: rest → (∀ x ∈ done, x.IsValue) →
      a.stage = .running → Line jobs done [a] false rest
  | recorded {done a rest e} : jobs = done ++ a.job :: rest → (∀ x ∈ done, x.IsValue) →
      a.stage = .recorded → a.job.ending = .failure e → Line jobs done [a] false rest
  | marked {done a past rest e} : jobs = done ++ a.job :: (past ++ rest) →
      (∀ x ∈ done, x.IsValue) → a.stage = .marked → a.job.ending = .failure e →
      Line jobs done [a] true rest
  | failed {done job past rest e} : jobs = done ++ job :: (past ++ rest) →
      (∀ x ∈ done, x.IsValue) → job.ending = .failure e → Line jobs (done ++ [job]) [] true rest

namespace Line

variable {jobs done rest : List (Job α)} {active : List (Active α)} {failed : Bool} {job : Job α}

theorem begins (h : Line jobs done [] false (job :: rest)) (i : Nat) :
    Line jobs done [⟨i, job, .running⟩] false rest := by
  cases h with
  | idle hjobs hdone => exact .running hjobs hdone rfl

theorem passes (h : Line jobs done active true (job :: rest)) :
    Line jobs done active true rest := by
  cases h with
  | @marked _ a past _ e hjobs hdone hstage he =>
    have hnext : jobs = done ++ a.job :: ((past ++ [job]) ++ rest) := by simp [hjobs]
    exact .marked hnext hdone hstage he
  | @failed done' job' past _ e hjobs hdone he =>
    have hnext : jobs = done' ++ job' :: ((past ++ [job]) ++ rest) := by simp [hjobs]
    exact .failed hnext hdone he

theorem active_eq (h : Line jobs done active failed rest) {k : Nat} {a : Active α}
    (ha : active[k]? = some a) : active = [a] ∧ k = 0 ∧ a.job ∈ jobs := by
  have hone : ∀ b : Active α, [b][k]? = some a → b = a ∧ k = 0 := by
    intro b hb
    obtain ⟨hk, hget⟩ := List.getElem?_eq_some_iff.mp hb
    obtain rfl : k = 0 := by simpa using hk
    exact ⟨hget, rfl⟩
  cases h with
  | idle | failed => simp at ha
  | running hjobs | recorded hjobs | marked hjobs =>
    obtain ⟨rfl, rfl⟩ := hone _ ha
    simp [hjobs]

/-- What has run so far is what runs first where the jobs run one by one. -/
theorem executed (h : Line jobs done active failed rest) :
    done ++ active.map (·.job) <+: (oneByOne jobs).1 := by
  cases h with
  | idle hjobs hdone =>
    rw [hjobs, oneByOne_append hdone]
    simp
  | running hjobs hdone | recorded hjobs hdone =>
    rw [hjobs, oneByOne_append hdone]
    exact (List.prefix_append_right_inj done).mpr (oneByOne_head _ _)
  | marked hjobs hdone _ he => simp [hjobs, oneByOne_failure hdone he]
  | failed hjobs hdone he => simp [hjobs, oneByOne_failure hdone he]

theorem finished (h : Line jobs done [] failed []) : (oneByOne jobs).1 = done ∧
    ((oneByOne jobs).2 = .ok (done.filterMap (·.ending.value?)) ∧
        done.filterMap (·.ending.error?) = [] ∨
      ∃ e, (oneByOne jobs).2 = .error e ∧ done.filterMap (·.ending.error?) = [e]) := by
  cases h with
  | idle hjobs hdone =>
    simp only [List.append_nil] at hjobs
    rw [hjobs, oneByOne_values hdone]
    exact ⟨rfl, .inl ⟨rfl, errors_of_values hdone⟩⟩
  | failed hjobs hdone he =>
    rw [hjobs, oneByOne_failure hdone he]
    refine ⟨rfl, .inr ⟨_, rfl, ?_⟩⟩
    rw [List.filterMap_append, errors_of_values hdone]
    simp [he, Ending.error?]

end Line

namespace Pool

variable {limit k : Nat} {jobs rest : List (Job α)} {l l' : Log α} {p p' : Pool α} {job : Job α}

/-- Of the jobs of the one runner, some have ended, in order, and the next one may be active. -/
def Lined (jobs : List (Job α)) (l : Log α) (p : Pool α) (rest : List (Job α)) : Prop :=
  ∃ done, l.accepted = (done ++ p.active.map (·.job)).map (0, ·) ∧
    l.ended = List.range done.length ∧ l.running = p.active.map (fun _ => done.length) ∧
    Line jobs done p.active (p.hasFailed 0) rest

theorem hasFailed_modifyRunner {f : Runner α → Runner α} (hf : ∀ r, (f r).failed = r.failed)
    (i j : Nat) (p : Pool α) : (p.modifyRunner i f).hasFailed j = p.hasFailed j := by
  by_cases h : i = j
  · subst h
    cases hr : p.runners[i]? <;> simp [hasFailed, modifyRunner, hr, hf]
  · simp [hasFailed, modifyRunner, h]

theorem hasFailed_join {i : Nat} {r : Runner α} (hr : p.runners[i]? = some r) {x : Ending α}
    (hx : r.endings[r.joined]? = some x) (hp : x.isPanic = false) :
    (p.modifyRunner i Runner.join).hasFailed i = p.hasFailed i := by
  have hjoin : r.join.failed = r.failed := by
    cases x with
    | value _ | failure _ => simp [Runner.join, hx]
    | panic => cases hp
  simp [hasFailed, modifyRunner, hr, hjoin]

namespace Lined

theorem of_same (h : Lined jobs l p rest) (hacc : l'.accepted = l.accepted)
    (hrun : l'.running = l.running) (hend : l'.ended = l.ended) (hact : p'.active = p.active)
    (hfail : p'.hasFailed 0 = p.hasFailed 0) : Lined jobs l' p' rest := by
  obtain ⟨done, hjobs, hended, hrunning, hline⟩ := h
  refine ⟨done, ?_, hend.trans hended, ?_, ?_⟩
  · rw [hacc, hact, hjobs]
  · rw [hrun, hact, hrunning]
  · rwa [hact, hfail]

theorem accept (h : Lined jobs l p (job :: rest)) (hact : p.active = [])
    (hopen : p.hasFailed 0 = false) : Lined jobs (l.accept 0 job) (p.accept 0 job) rest := by
  obtain ⟨done, hjobs, hended, hrunning, hline⟩ := h
  rw [hact] at hjobs hrunning hline
  rw [hopen] at hline
  have hactive : (p.accept 0 job).active = [⟨0, job, .running⟩] := by simp [Pool.accept, hact]
  have hfail : (p.accept 0 job).hasFailed 0 = false :=
    (hasFailed_modifyRunner (f := Runner.accepted) (fun _ => rfl) 0 0 p).trans hopen
  refine ⟨done, ?_, hended, ?_, ?_⟩
  · simp [Log.accept, hactive, hjobs]
  · simp [Log.accept, hactive, hrunning, hjobs]
  · rw [hactive, hfail]
    exact hline.begins 0

theorem pass (h : Lined jobs l p (job :: rest)) (hf : p.hasFailed 0 = true) :
    Lined jobs l p rest := by
  obtain ⟨done, hjobs, hended, hrunning, hline⟩ := h
  rw [hf] at hline
  exact ⟨done, hjobs, hended, hrunning, by rw [hf]; exact hline.passes⟩

theorem records (h : Lined jobs l p rest) {a : Active α} {e : Error} (hact : p.active = [a])
    (hstage : a.stage = .running) (he : a.job.ending = .failure e) :
    Lined jobs (l.record 0 e) ((p.modifyRunner 0 (Runner.record e)).moveTo 0 .recorded) rest := by
  obtain ⟨done, hacc, hended, hrunning, hline⟩ := h
  rw [hact] at hacc hrunning hline
  have hactive : ((p.modifyRunner 0 (Runner.record e)).moveTo 0 .recorded).active =
      [{ a with stage := .recorded }] := by simp [moveTo, modifyRunner, hact]
  have hfail : ((p.modifyRunner 0 (Runner.record e)).moveTo 0 .recorded).hasFailed 0 =
      p.hasFailed 0 := hasFailed_modifyRunner (f := Runner.record e) (fun _ => rfl) 0 0 p
  refine ⟨done, ?_, hended, ?_, ?_⟩
  · rwa [hactive]
  · rwa [hactive]
  · rw [hactive, hfail]
    generalize p.hasFailed 0 = failed at hline
    cases hline with
    | running hjobs hdone => exact .recorded hjobs hdone rfl he
    | recorded _ _ hs | marked _ _ hs => simp [hstage] at hs

theorem marks (h : Lined jobs l p rest) {a : Active α} (hact : p.active = [a])
    (hstage : a.stage = .recorded) (hlen : 0 < p.runners.length) :
    Lined jobs l ((p.modifyRunner 0 Runner.mark).moveTo 0 .marked) rest := by
  obtain ⟨done, hacc, hended, hrunning, hline⟩ := h
  rw [hact] at hacc hrunning hline
  have hactive : ((p.modifyRunner 0 Runner.mark).moveTo 0 .marked).active =
      [{ a with stage := .marked }] := by simp [moveTo, modifyRunner, hact]
  have hfail : ((p.modifyRunner 0 Runner.mark).moveTo 0 .marked).hasFailed 0 = true := by
    simp [hasFailed, moveTo, modifyRunner, List.getElem?_eq_getElem hlen, Runner.mark]
  refine ⟨done, ?_, hended, ?_, ?_⟩
  · rwa [hactive]
  · rwa [hactive]
  · rw [hactive, hfail]
    generalize p.hasFailed 0 = failed at hline
    cases hline with
    | recorded hjobs hdone _ he =>
      have hnext : jobs = done ++ a.job :: ([] ++ rest) := hjobs
      exact .marked hnext hdone rfl he
    | running _ _ hs | marked _ _ hs => simp [hstage] at hs

theorem releases (h : Lined jobs l p rest) {a : Active α} (hact : p.active = [a])
    (hends : a.stage = .running ∧ a.job.IsValue ∨ a.stage = .marked) :
    Lined jobs (l.finish 0) (p.release 0 a) rest := by
  obtain ⟨done, hacc, hended, hrunning, hline⟩ := h
  rw [hact] at hacc hrunning hline
  have hactive : (p.release 0 a).active = [] := by simp [release, hact]
  have hfail : (p.release 0 a).hasFailed 0 = p.hasFailed 0 :=
    hasFailed_modifyRunner (f := Runner.ended a.job.ending) (fun _ => rfl) a.owner 0 p
  refine ⟨done ++ [a.job], ?_, ?_, ?_, ?_⟩
  · rw [show (l.finish 0).accepted = l.accepted from rfl, hactive, hacc]
    simp
  · simp [Log.finish, hrunning, hended, List.range_succ]
  · simp [Log.finish, hactive, hrunning]
  · rw [hactive, hfail]
    generalize p.hasFailed 0 = failed at hline
    cases hline with
    | running hjobs hdone hs =>
      have hvalue : a.job.IsValue := by
        rcases hends with ⟨_, hvalue⟩ | hmarked
        · exact hvalue
        · simp [hs] at hmarked
      refine .idle (by simp [hjobs]) fun x hx => ?_
      rcases List.mem_append.mp hx with hx | hx
      · exact hdone x hx
      · exact List.mem_singleton.mp hx ▸ hvalue
    | recorded _ _ hs => simp [hs] at hends
    | marked hjobs hdone _ he => exact .failed hjobs hdone he

theorem active_eq (h : Lined jobs l p rest) {a : Active α} (ha : p.active[k]? = some a) :
    p.active = [a] ∧ k = 0 ∧ a.job ∈ jobs := by
  obtain ⟨_, _, _, _, hline⟩ := h
  exact hline.active_eq ha

theorem advance (h : Lined jobs l p rest) (hjobs : ∀ x ∈ jobs, x.ending.isPanic = false)
    (howner : ∀ a ∈ p.active, a.owner = 0) (hlen : 0 < p.runners.length) (k : Nat) :
    Lined jobs (l.advanced k p) (p.advance k) rest := by
  cases ha : p.active[k]? with
  | none =>
    have hpool : p.advance k = p := by simp [Pool.advance, ha]
    have hlog : l.advanced k p = l := by simp [Log.advanced, ha]
    rwa [hpool, hlog]
  | some a =>
    -- each stage of the one job that holds the permit has one step
    obtain ⟨hact, rfl, hmem⟩ := h.active_eq ha
    have hzero := howner a (List.mem_of_getElem? ha)
    cases hstage : a.stage with
    | running =>
      cases he : a.job.ending with
      | value v =>
        have hn : a.next = .release := by simp [Active.next, hstage, he]
        simpa [Pool.advance, Log.advanced, ha, hn] using h.releases hact (.inl ⟨hstage, v, he⟩)
      | failure e =>
        have hn : a.next = .record e := by simp [Active.next, hstage, he]
        simpa [Pool.advance, Log.advanced, ha, hn, hzero] using h.records hact hstage he
      | panic => simpa [he, Ending.isPanic] using hjobs a.job hmem
    | recorded =>
      have hn : a.next = .mark := by simp [Active.next, hstage]
      simpa [Pool.advance, Log.advanced, ha, hn, hzero] using h.marks hact hstage hlen
    | marked =>
      have hn : a.next = .release := by simp [Active.next, hstage]
      simpa [Pool.advance, Log.advanced, ha, hn] using h.releases hact (.inr hstage)

end Lined

end Pool

end CloudInventory
