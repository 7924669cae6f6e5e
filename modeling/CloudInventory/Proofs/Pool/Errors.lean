import CloudInventory.Proofs.Pool.Accounts

/-! The errors of a runner. The body of a job records its error as it fails, and the wait records
a panic as it takes it in; no failure is recorded twice, and none is missing once the wait is
over. -/

namespace CloudInventory

variable {α : Type} {limit i j k : Nat}

theorem modify_perm {l : List α} {a : α} (h : l[k]? = some a) (f : α → α) :
    (l.modify k f).Perm (f a :: l.eraseIdx k) := by
  have hk : (l.modify k f)[k]? = some (f a) := by simp [h]
  have hp := cons_eraseIdx_perm hk
  rw [List.eraseIdx_modify_of_eq] at hp
  exact hp.symm

namespace Ending

def failure? : Ending α → Option Error
  | .failure e => some e
  | _ => none

def panicked? : Ending α → Option Error
  | .panic report => some (.task report)
  | _ => none

/-- The error of a job that comes to no value. -/
def error? : Ending α → Option Error
  | .value _ => none
  | .failure e => some e
  | .panic report => some (.task report)

theorem errors_perm (endings : List (Ending α)) :
    (endings.filterMap error?).Perm
      (endings.filterMap failure? ++ endings.filterMap panicked?) := by
  induction endings with
  | nil => exact .refl _
  | cons x xs ih =>
    cases x with
    | value v => exact ih
    | failure e => exact ih.cons e
    | panic report => exact (ih.cons (.task report)).trans List.perm_middle.symm

end Ending

/-- What a job of this runner has recorded while it still holds its permit. -/
def Active.told? (i : Nat) (a : Active α) : Option Error :=
  if a.owner = i ∧ a.stage ≠ .running then a.job.ending.failure? else none

/-- What the ended jobs of a runner have recorded. -/
def Runner.told (r : Runner α) : List Error :=
  r.endings.filterMap Ending.failure? ++ (r.endings.take r.joined).filterMap Ending.panicked?

namespace Pool

variable {l l' : Log α} {p p' : Pool α} {a : Active α} {m : Act α}

/-- Every failure is recorded once. -/
structure Told (l : Log α) (p : Pool α) : Prop where
  perm : ∀ i r, p.runners[i]? = some r →
    (l.errorsOf i).Perm (p.active.filterMap (Active.told? i) ++ r.told)

namespace Told

theorem extend (h : Told l p) (new : Nat → List Error)
    (herr : ∀ j, l'.errorsOf j = l.errorsOf j ++ new j)
    (hrun : ∀ j r', p'.runners[j]? = some r' → ∃ r, p.runners[j]? = some r ∧
      (p'.active.filterMap (Active.told? j) ++ r'.told).Perm
        (p.active.filterMap (Active.told? j) ++ r.told ++ new j)) : Told l' p' where
  perm j r' hr' := by
    obtain ⟨r, hr, hp⟩ := hrun j r' hr'
    rw [herr]
    exact ((h.perm j r hr).append_right _).trans hp.symm

theorem keep (h : Told l p) (herr : ∀ j, l'.errorsOf j = l.errorsOf j)
    (hact : ∀ j, p'.active.filterMap (Active.told? j) = p.active.filterMap (Active.told? j))
    (hrun : ∀ (j : Nat) r', p'.runners[j]? = some r' →
      ∃ r : Runner α, p.runners[j]? = some r ∧ r'.told = r.told) : Told l' p' := by
  refine h.extend (fun _ => []) (fun j => by simp [herr]) fun j r' hr' => ?_
  obtain ⟨r, hr, htold⟩ := hrun j r' hr'
  exact ⟨r, hr, by simp [hact, htold]⟩

theorem modifyRunner (h : Told l p) {f : Runner α → Runner α} (hf : ∀ r, (f r).told = r.told) :
    Told l (p.modifyRunner i f) := by
  refine h.keep (fun _ => rfl) (fun _ => rfl) fun j r' hr' => ?_
  obtain ⟨r, hr, rfl⟩ := exists_of_modifyRunner hr'
  refine ⟨r, hr, ?_⟩
  split
  · exact hf r
  · rfl

theorem addRunner (h : Told l p) (hs : Sound limit l p) : Told l p.addRunner where
  perm j r hr := by
    by_cases hj : j < p.runners.length
    · rw [Pool.addRunner, List.getElem?_append_left hj] at hr
      exact h.perm j r hr
    · have herr : l.errorsOf j = [] := hs.errorsOf_eq_nil (Nat.le_of_not_lt hj)
      have hact : p.active.filterMap (Active.told? j) = [] := by
        refine List.filterMap_eq_nil_iff.mpr fun a ha => if_neg fun hown => ?_
        have hlt := hs.owner_lt ha
        omega
      have hnew : r = Runner.new := by
        rw [Pool.addRunner, List.getElem?_append_right (Nat.le_of_not_lt hj)] at hr
        exact List.mem_singleton.mp (List.mem_of_getElem? hr)
      have hends : p.addRunner.active.filterMap (Active.told? j) = [] := hact
      simp [herr, hends, hnew, Runner.told, Runner.new]

theorem accept (h : Told l p) (i : Nat) (job : Job α) : Told (l.accept i job) (p.accept i job) := by
  have haccept : Told l (p.modifyRunner i Runner.accepted) := h.modifyRunner fun _ => rfl
  refine haccept.keep (fun _ => rfl) (fun j => ?_) fun j r hr => ⟨r, hr, rfl⟩
  simp [Pool.accept, Pool.modifyRunner, Active.told?]

section Jobs

theorem moveTo_told (ha : p.active[k]? = some a) (stage : Stage) (j : Nat) :
    ((p.moveTo k stage).active.filterMap (Active.told? j)).Perm
      ((Active.told? j { a with stage := stage }).toList ++
        (p.active.eraseIdx k).filterMap (Active.told? j)) := by
  have hp := (modify_perm ha fun a => { a with stage := stage }).filterMap (Active.told? j)
  cases ht : Active.told? j { a with stage := stage } <;> simpa [ht, Pool.moveTo] using hp

theorem active_told (ha : p.active[k]? = some a) (j : Nat) :
    (p.active.filterMap (Active.told? j)).Perm
      ((Active.told? j a).toList ++ (p.active.eraseIdx k).filterMap (Active.told? j)) := by
  have hp := (cons_eraseIdx_perm ha).symm.filterMap (Active.told? j)
  cases ht : Active.told? j a <;> simpa [ht] using hp

theorem record (h : Told l p) (ha : p.active[k]? = some a) {e : Error}
    (hn : a.next = .record e) :
    Told (l.record a.owner e) ((p.modifyRunner a.owner (Runner.record e)).moveTo k .recorded) := by
  obtain ⟨hstage, hending⟩ : a.stage = .running ∧ a.job.ending = .failure e := by
    unfold Active.next at hn
    split at hn <;> simp_all
  have hrec : Told l (p.modifyRunner a.owner (Runner.record e)) := h.modifyRunner fun _ => rfl
  refine hrec.extend (fun j => if a.owner = j then [e] else []) (fun j => by simp)
    fun j r hr => ⟨r, hr, List.perm_iff_count.mpr fun d => ?_⟩
  have hmove :=
    (moveTo_told (p := p.modifyRunner a.owner (Runner.record e)) ha .recorded j).count_eq d
  have hold := (active_told ha j).count_eq d
  have hnone : Active.told? j a = none := by simp [Active.told?, hstage]
  have hsome : (Active.told? j { a with stage := .recorded }).toList =
      if a.owner = j then [e] else [] := by
    by_cases hj : a.owner = j <;> simp [Active.told?, hj, hending, Ending.failure?]
  simp only [hsome, hnone, List.count_append, Option.toList_none, List.count_nil] at hmove hold ⊢
  simp only [Pool.modifyRunner] at hmove ⊢
  omega

theorem mark (h : Told l p) (ha : p.active[k]? = some a) (hn : a.next = .mark) :
    Told l ((p.modifyRunner a.owner Runner.mark).moveTo k .marked) := by
  have hstage : a.stage ≠ .running := by
    intro hs
    cases he : a.job.ending <;> simp [Active.next, hs, he] at hn
  have hmark : Told l (p.modifyRunner a.owner Runner.mark) := h.modifyRunner fun _ => rfl
  refine hmark.extend (fun _ => []) (fun j => by simp)
    fun j r hr => ⟨r, hr, List.perm_iff_count.mpr fun d => ?_⟩
  have hmove := (moveTo_told (p := p.modifyRunner a.owner Runner.mark) ha .marked j).count_eq d
  have hold := (active_told ha j).count_eq d
  have hsame : Active.told? j { a with stage := .marked } = Active.told? j a := by
    simp [Active.told?, hstage]
  simp only [hsame, List.count_append, List.count_nil] at hmove hold ⊢
  simp only [Pool.modifyRunner] at hmove ⊢
  omega

theorem release (h : Told l p) (hs : Sound limit l p) (ha : p.active[k]? = some a)
    (hn : a.next = .release) : Told (l.finish k) (p.release k a) := by
  have htold : ∀ j, Active.told? j a = if a.owner = j then a.job.ending.failure? else none := by
    intro j
    cases hstage : a.stage with
    | running =>
      -- only a job without an error is released from there
      cases he : a.job.ending <;>
        simp_all [Active.next, Active.told?, Ending.failure?]
    | recorded => simp [Active.next, hstage] at hn
    | marked => simp [Active.told?, hstage]
  refine h.extend (fun _ => []) (fun j => by simp) fun j r' hr' => ?_
  obtain ⟨r, hr, rfl⟩ := exists_of_modifyRunner hr'
  have hold := active_told ha j
  rw [htold] at hold
  refine ⟨r, hr, List.perm_iff_count.mpr fun d => ?_⟩
  have hcount := hold.count_eq d
  by_cases hj : a.owner = j
  · have htake : (r.endings ++ [a.job.ending]).take r.joined = r.endings.take r.joined :=
      List.take_append_of_le_length (hs.runners j r hr).joined
    have hended : ((r.ended a.job.ending).told).count d =
        a.job.ending.failure?.toList.count d + r.told.count d := by
      simp only [Runner.told, Runner.ended, htake, List.filterMap_append, List.count_append]
      cases hf : a.job.ending.failure? with
      | none => simp [hf]
      | some e =>
        simp [hf]
        omega
    simp only [hj, if_true, List.count_append, Pool.release, hended] at hcount ⊢
    simp only [List.count_nil]
    omega
  · simp only [hj, if_false, List.count_append, Pool.release, Option.toList_none,
      List.count_nil] at hcount ⊢
    omega

end Jobs

theorem advance (h : Told l p) (hs : Sound limit l p) (k : Nat) :
    Told (l.advanced k p) (p.advance k) := by
  cases ha : p.active[k]? with
  | none => simpa [Log.advanced, Pool.advance, ha] using h
  | some a =>
    cases hn : a.next with
    | record e => simpa only [Log.advanced, Pool.advance, ha, hn] using h.record ha hn
    | mark => simpa only [Log.advanced, Pool.advance, ha, hn] using h.mark ha hn
    | release => simpa only [Log.advanced, Pool.advance, ha, hn] using h.release hs ha hn

theorem join (h : Told l p) {r : Runner α} (hr : p.runners[i]? = some r) {x : Ending α}
    (hx : r.endings[r.joined]? = some x) :
    Told (l.joined i (some x)) (p.modifyRunner i Runner.join) := by
  have htake : r.endings.take (r.joined + 1) = r.endings.take r.joined ++ [x] := by
    simp [List.take_add_one, hx]
  refine h.extend (fun j => if i = j then x.panicked?.toList else []) (fun j => ?_)
    fun j r' hr' => ?_
  · cases x <;> by_cases hj : i = j <;> simp [Log.joined, Ending.panicked?, hj]
  · obtain ⟨q, hq, rfl⟩ := exists_of_modifyRunner hr'
    refine ⟨q, hq, ?_⟩
    by_cases hj : i = j
    · subst hj
      obtain rfl : r = q := Option.some.inj (hr.symm.trans hq)
      have hjoin : r.join.told = r.told ++ x.panicked?.toList := by
        cases x <;> simp [Runner.told, Runner.join, hx, htake, Runner.record, Runner.mark,
          Ending.panicked?]
      simp [hjoin, Pool.modifyRunner]
    · simp [hj, Pool.modifyRunner]

theorem await (h : Told l p) (i : Nat) : Told (l.joined i (p.joins? i)) (p.await i) := by
  rcases await_cases i p with
    ⟨ha, hj, _⟩ | ⟨r, hr, _, ⟨_, hj, ha⟩ | ⟨_, x, hx, hj, ha⟩ | ⟨_, _, hj, _, ha⟩⟩
  · rw [ha, hj]
    exact h
  · rw [ha, hj]
    exact h.modifyRunner fun _ => rfl
  · rw [ha, hj]
    exact h.join hr hx
  · rw [ha, hj]
    exact h.modifyRunner fun _ => rfl

theorem act (h : Told l p) (hs : Sound limit l p) (m : Act α) : Told (l.note m p) (p.act m) := by
  cases m with
  | addRunner => exact h.addRunner hs
  | accept i job => exact h.accept i job
  | advance k => exact h.advance hs k
  | startWait i | drop i => exact h.modifyRunner fun _ => rfl
  | await i => exact h.await i
  | cancel => exact ⟨h.perm⟩

end Told

namespace Sound

/-- A wait that is over in an uncancelled pool has every error of its runner's jobs recorded. -/
theorem recorded_perm (h : Sound limit l p) (ht : Told l p) (hc : p.cancelled = false)
    {outcome : Except Error (List α)} (hp : p.phase? i = some (.settled outcome)) :
    (l.errorsOf i).Perm ((l.acceptedBy i).filterMap (·.ending.error?)) := by
  obtain ⟨r, hr, hphase⟩ := exists_runner hp
  have hs := h.runners i r hr
  rcases hs.settled _ hphase with ⟨_, hcan⟩ | ⟨_, hj, hq⟩
  · simp [hc] at hcan
  · have hact : p.active.filterMap (Active.told? i) = [] :=
      List.filterMap_eq_nil_iff.mpr fun a ha => if_neg fun hown => hq a ha hown.1
    have htold : r.told = r.endings.filterMap Ending.failure? ++
        r.endings.filterMap Ending.panicked? := by
      rw [Runner.told, hj, List.take_length]
    have hends : (r.endings.filterMap Ending.error?).Perm
        ((l.acceptedBy i).filterMap (·.ending.error?)) := by
      have hp := ((h.acceptedBy_perm_of_quiet hq).map Job.ending).filterMap Ending.error?
      rw [← hs.endings, List.filterMap_map] at hp
      exact hp.symm
    have hperm := ht.perm i r hr
    rw [hact, htold, List.nil_append] at hperm
    exact hperm.trans ((Ending.errors_perm r.endings).symm.trans hends)

theorem outcome_eq (h : Sound limit l p) (hc : p.cancelled = false)
    {outcome : Except Error (List α)} (hp : p.phase? i = some (.settled outcome)) :
    (∃ e, outcome = .error e) ↔ l.errorsOf i ≠ [] := by
  cases outcome with
  | ok values => simp [(h.settled_ok hp).1]
  | error e =>
    have hfirst := h.settled_error hc hp
    refine iff_of_true ⟨e, rfl⟩ fun hnil => ?_
    simp [hnil] at hfirst

/-- Once cancelled before it was over, a wait has nothing to return but the cancellation. -/
theorem settled_of_open (h : Sound limit l p) {r : Runner α} (hr : p.runners[i]? = some r)
    (hopen : r.joined < r.submitted ∨ p.settled? i = none) {outcome : Except Error (List α)}
    (hp : p.phase? i = some (.settled outcome)) : outcome = .error .cancelled := by
  obtain ⟨q, hq, hphase⟩ := exists_runner hp
  obtain rfl : r = q := Option.some.inj (hr.symm.trans hq)
  have hs := h.runners i r hr
  rcases hs.settled _ hphase with ⟨hcan, _⟩ | ⟨_, hj, hq⟩
  · exact hcan
  · rcases hopen with hlt | hnone
    · have hlen := (h.acceptedBy_perm_of_quiet hq).length_eq
      rw [hj, hs.submitted, hs.endings, List.length_map, hlen] at hlt
      exact absurd hlt (Nat.lt_irrefl _)
    · rw [settled?_eq_some.mpr hp] at hnone
      cases hnone

end Sound

theorem settled?_await_of_cancelled (hc : p.cancelled = true) (hw : p.phase? i = some .waiting) :
    (p.await i).settled? i = some (.error .cancelled) := by
  obtain ⟨r, hr, hphase⟩ := Option.map_eq_some_iff.mp hw
  have ha : p.await i = p.modifyRunner i (·.inPhase (.settled (.error .cancelled))) := by
    simp [Pool.await, hr, hphase, hc]
  rw [settled?_eq_some, ha]
  exact phase?_modifyRunner_inPhase (lt_of_phase?_eq_some hw)

section Settled

variable {outcome : Except Error (List α)}

theorem settled_of_addRunner (hp : p.addRunner.phase? i = some (.settled outcome)) :
    p.phase? i = some (.settled outcome) := by
  by_cases hi : i < p.runners.length
  · exact (phase?_addRunner hi).symm.trans hp
  · have hlt := lt_of_phase?_eq_some hp
    obtain rfl : i = p.runners.length := by
      simp only [Pool.addRunner, List.length_append, List.length_singleton] at hlt
      omega
    rw [phase?_addRunner_length] at hp
    cases hp

theorem settled_of_await (hc : p.cancelled = true)
    (hp : (p.await i).phase? i = some (.settled outcome)) :
    outcome = .error .cancelled ∨ p.phase? i = some (.settled outcome) := by
  rcases await_cases i p with ⟨ha, _⟩ | ⟨r, hr, _, ⟨_, _, ha⟩ | ⟨hfalse, _⟩ | ⟨hfalse, _⟩⟩
  · exact .inr (ha ▸ hp)
  · rw [ha, phase?_modifyRunner_inPhase (List.getElem?_eq_some_iff.mp hr).1] at hp
    exact .inl (by simpa using hp.symm)
  · simp [hc] at hfalse
  · simp [hc] at hfalse

theorem not_settled_inPhase {phase : Phase α} (hne : ∀ outcome, phase ≠ .settled outcome) :
    (p.modifyRunner i (·.inPhase phase)).phase? i ≠ some (.settled outcome) := by
  intro hp
  have hlt := lt_of_phase?_eq_some hp
  rw [phase?_modifyRunner_inPhase (by simpa [Pool.modifyRunner] using hlt),
    Option.some.injEq] at hp
  exact hne _ hp

/-- A wait that has not ended in a cancelled pool ends with the cancellation or not at all. -/
theorem settled_act (hc : p.cancelled = true)
    (h : ∀ outcome, p.phase? i = some (.settled outcome) → outcome = .error .cancelled)
    (m : Act α) (hp : (p.act m).phase? i = some (.settled outcome)) :
    outcome = .error .cancelled := by
  cases m with
  | addRunner => exact h _ (settled_of_addRunner hp)
  | accept j job => exact h _ ((phase?_accept job).symm.trans hp)
  | advance k => exact h _ (phase?_advance.symm.trans hp)
  | startWait j =>
    by_cases hij : j = i
    · subst hij
      exact absurd hp (not_settled_inPhase (by simp))
    · exact h _ ((phase?_startWait_of_ne hij).symm.trans hp)
  | await j =>
    by_cases hij : j = i
    · subst hij
      exact (settled_of_await hc hp).elim id (h _)
    · exact h _ ((phase?_await_of_ne hij).symm.trans hp)
  | drop j =>
    by_cases hij : j = i
    · subst hij
      exact absurd hp (not_settled_inPhase (by simp))
    · exact h _ ((phase?_drop_of_ne hij).symm.trans hp)
  | cancel => exact h _ hp

end Settled

end Pool

end CloudInventory
