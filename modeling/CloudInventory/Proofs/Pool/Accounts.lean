import CloudInventory.Proofs.Pool.Phase

/-! What a sound log tells of a runner's jobs: each of them is active or has ended, and a wait
that ends well has all of them behind it, each with a value. -/

namespace CloudInventory.Pool

variable {α : Type} {limit i : Nat} {l : Log α} {p : Pool α}

/-- The jobs that hold a permit, in the order of their acceptance. -/
def holders (p : Pool α) : List (Nat × Job α) := p.active.map fun a => (a.owner, a.job)

namespace Sound

theorem tasks_running (h : Sound limit l p) : l.tasks l.running = p.holders := by
  have hm : (l.running.map (l.accepted[·]?)).filterMap id =
      (p.active.map fun a => some (a.owner, a.job)).filterMap id := congrArg _ h.tasks
  simpa [List.filterMap_map, Function.comp_def, Log.tasks, holders] using hm

theorem accepted_perm (h : Sound limit l p) :
    l.accepted.Perm (l.tasks l.ended ++ p.holders) := by
  have hp := h.once.filterMap (l.accepted[·]?)
  rw [filterMap_getElem?_range, List.filterMap_append] at hp
  exact hp.symm.trans (by rw [← h.tasks_running]; rfl)

theorem acceptedBy_perm (h : Sound limit l p) (i : Nat) :
    (l.acceptedBy i).Perm (l.endedOf i ++ ownedBy i p.holders) := by
  have hp := ownedBy_perm (i := i) h.accepted_perm
  rwa [ownedBy_append] at hp

theorem acceptedBy_perm_of_quiet (h : Sound limit l p) (hq : ∀ a ∈ p.active, a.owner ≠ i) :
    (l.acceptedBy i).Perm (l.endedOf i) := by
  have hnil : ownedBy i p.holders = [] := by
    apply ownedBy_eq_nil
    intro x hx
    obtain ⟨a, ha, rfl⟩ := List.mem_map.mp hx
    exact hq a ha
  simpa [hnil] using h.acceptedBy_perm i

theorem ended_of_quiet (h : Sound limit l p) (hq : ∀ a ∈ p.active, a.owner ≠ i) {n : Nat}
    {job : Job α} (hn : l.accepted[n]? = some (i, job)) : n ∈ l.ended := by
  have hlt := (List.getElem?_eq_some_iff.mp hn).1
  rcases List.mem_append.mp (h.once.mem_iff.mpr (List.mem_range.mpr hlt)) with he | hr
  · exact he
  · have hmem : l.accepted[n]? ∈ p.active.map fun a => some (a.owner, a.job) :=
      h.tasks ▸ List.mem_map_of_mem hr
    obtain ⟨a, ha, heq⟩ := List.mem_map.mp hmem
    rw [hn, Option.some.injEq, Prod.mk.injEq] at heq
    exact absurd heq.1 (hq a ha)

theorem free_pos (h : Sound limit l p) (hq : p.active = []) : 0 < p.free := by
  have hp := h.permits
  rw [hq, h.limit] at hp
  have hclamp : 1 ≤ clamp limit := Nat.le_max_left 1 limit
  simp only [List.length_nil] at hp
  omega

theorem exists_runner {phase : Phase α} (hp : p.phase? i = some phase) :
    ∃ r, p.runners[i]? = some r ∧ r.phase = phase := Option.map_eq_some_iff.mp hp

end Sound

theorem endings_eq_values {endings : List (Ending α)} (hf : ∀ e, .failure e ∉ endings)
    (hp : ∀ report, .panic report ∉ endings) : endings = (endings.filterMap Ending.value?).map .value := by
  induction endings with
  | nil => rfl
  | cons x xs ih =>
    have hxs := ih (fun e he => hf e (List.mem_cons_of_mem _ he))
      fun report h => hp report (List.mem_cons_of_mem _ h)
    cases x with
    | value v => simpa [Ending.value?] using hxs
    | failure e => exact absurd List.mem_cons_self (hf e)
    | panic report => exact absurd List.mem_cons_self (hp report)

theorem outcome_eq_ok {r : Runner α} {values : List α} (h : r.outcome = .ok values) :
    r.firstError = none ∧ values = r.values := by
  unfold Runner.outcome at h
  split at h
  · cases h
  · exact ⟨‹_›, by simpa using h.symm⟩

namespace Sound

/-- A wait that returns values has seen every accepted job of its runner end with one. -/
theorem settled_ok (h : Sound limit l p) {values : List α}
    (hp : p.phase? i = some (.settled (.ok values))) :
    l.errorsOf i = [] ∧ (∀ a ∈ p.active, a.owner ≠ i) ∧
      ((l.acceptedBy i).map Job.ending).Perm (values.map .value) := by
  obtain ⟨r, hr, hphase⟩ := exists_runner hp
  have hs := h.runners i r hr
  rcases hs.settled _ hphase with ⟨herr, _⟩ | ⟨hout, hj, hq⟩
  · cases herr
  · obtain ⟨hnone, hval⟩ := outcome_eq_ok hout.symm
    have hnil : l.errorsOf i = [] := List.head?_eq_none_iff.mp (hs.first ▸ hnone)
    refine ⟨hnil, hq, ?_⟩
    have hends : r.endings = r.values.map .value := by
      apply endings_eq_values
      · exact fun e he => hs.failures e he hnil
      · intro report hpan
        exact hs.panics report (by rwa [hj, List.take_length]) hnil
    rw [hval, ← hends, hs.endings]
    exact (h.acceptedBy_perm_of_quiet hq).map _

theorem settled_error (h : Sound limit l p) (hc : p.cancelled = false) {e : Error}
    (hp : p.phase? i = some (.settled (.error e))) : (l.errorsOf i).head? = some e := by
  obtain ⟨r, hr, hphase⟩ := exists_runner hp
  have hs := h.runners i r hr
  rcases hs.settled _ hphase with ⟨_, hcan⟩ | ⟨hout, _⟩
  · simp [hc] at hcan
  · rw [← hs.first]
    cases hfirst : r.firstError with
    | none => simp [Runner.outcome, hfirst] at hout
    | some d => simpa [Runner.outcome, hfirst] using hout.symm

theorem not_closed_of_settles (h : Sound limit l p) {values : List α}
    (hw : p.phase? i = some .waiting)
    (hp : (p.await i).phase? i = some (.settled (.ok values))) : p.isClosed i = false := by
  obtain ⟨r, hr, hphase⟩ := exists_runner hw
  have hs := h.runners i r hr
  have hlt := lt_of_phase?_eq_some hw
  rcases await_cases i p with
    ⟨ha, _⟩ | ⟨q, hq, _, ⟨_, _, ha⟩ | ⟨_, _, _, _, ha⟩ | ⟨hc, _, _, _, ha⟩⟩
  · rw [ha, hw] at hp
    cases hp
  · rw [ha, phase?_modifyRunner_inPhase hlt] at hp
    cases hp
  · rw [ha, phase?_modifyRunner_of_keeps join_phase, hw] at hp
    cases hp
  · obtain rfl : r = q := Option.some.inj (hr.symm.trans hq)
    rw [ha, phase?_modifyRunner_inPhase hlt, Option.some.injEq, Phase.settled.injEq] at hp
    have hnil : l.errorsOf i = [] :=
      List.head?_eq_none_iff.mp (hs.first ▸ (outcome_eq_ok hp).1)
    have hfail : r.failed = false := by
      cases hf : r.failed with
      | false => rfl
      | true => exact absurd hnil (hs.failed hf)
    simp [isClosed, hc, hasFailed, hr, hfail]

end Sound

end CloudInventory.Pool
