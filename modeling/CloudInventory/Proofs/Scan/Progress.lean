import CloudInventory.Proofs.Pool.Work
import CloudInventory.Proofs.Scan.Sound

/-! The work that a scan has before it once its list calls are answered. No step leaves more of
it, and a supplier that has not finished either waits for an answer or has a step before it. -/

namespace CloudInventory

/-- A read is submitted and then takes three steps, its ending aside. -/
def Progress.work : Progress → Nat
  | .listing _ => 0
  | .submitting _ todo => 5 * todo.length + 2
  | .waiting _ => 1
  | .finished _ => 0

theorem Pool.look_ne_pending {α : Type} (r : Nat) (p : Pool α) : p.look r true ≠ .pending := by
  unfold look lookWithin
  split
  · simp
  · split <;> simp

namespace Survey

variable {project : String} {types : List ResourceType} {limit : Nat} {alerts : Alerts}
  {u v w : Survey} {i : Nat} {t : ResourceType}

def work (u : Survey) : Nat :=
  (u.scan.suppliers.map (·.progress.work)).sum + u.scan.pool.work

/-- Answers to list calls come from outside; all other moves are the scan's own. -/
def Move.IsAnswer : Move → Prop
  | .answer _ _ => True
  | _ => False

theorem work_setProgress_add {old : Progress} (new : Progress)
    (hi : u.scan.suppliers[i]? = some ⟨t, old⟩) (hs : w.scan.suppliers = u.scan.suppliers) :
    (w.setProgress i new).work + (u.scan.pool.work + old.work) =
      u.work + (w.scan.pool.work + new.work) := by
  have hsum := sum_modify (f := fun p : Supplier => { p with progress := new })
    (g := fun p => p.progress.work) hi
  simp only [work, setProgress, Scan.setProgress, hs]
  simp only at hsum
  omega

theorem work_setProgress {old new : Progress} (hi : u.scan.suppliers[i]? = some ⟨t, old⟩)
    (hs : w.scan.suppliers = u.scan.suppliers)
    (hw : w.scan.pool.work + new.work < u.scan.pool.work + old.work) :
    (w.setProgress i new).work < u.work := by
  have hsum := work_setProgress_add new hi hs
  omega

theorem not_settled_of_none {p : Pool State} {r : Nat} {outcome : Except Error (List State)}
    (hr : r < p.runners.length)
    (h : (p.modifyRunner r (·.inPhase (.settled outcome))).settled? r = none) : False := by
  rw [Pool.settled?_eq_some.mpr (Pool.phase?_modifyRunner_inPhase hr)] at h
  cases h

theorem work_act {m : Pool.Act State} (h : (u.scan.pool.act m).work < u.scan.pool.work) :
    (u.act m).work < u.work := Nat.add_lt_add_left h _

theorem await_work {r : Nat} (hs : (u.scan.pool.await r).settled? r = none) :
    u.act (.await r) = u ∨ (u.act (.await r)).work < u.work := by
  rcases Pool.await_cases r u.scan.pool with
    ⟨ha, hj, _⟩ | ⟨q, hq, _, ⟨_, _, ha⟩ | ⟨_, x, hx, _, ha⟩ | ⟨_, _, _, _, ha⟩⟩
  · refine .inl ?_
    simp only [act, Pool.act, Scan.Log.note, Pool.Log.note, ha, hj]
    rfl
  · exact (not_settled_of_none (List.getElem?_eq_some_iff.mp hq).1 (ha ▸ hs)).elim
  · refine .inr (work_act ?_)
    simp only [Pool.act, ha]
    exact Pool.work_join hq hx
  · exact (not_settled_of_none (List.getElem?_eq_some_iff.mp hq).1 (ha ▸ hs)).elim

theorem advance_work (k : Nat) (u : Survey) :
    u.act (.advance k) = u ∨ (u.act (.advance k)).work < u.work := by
  cases ha : u.scan.pool.active[k]? with
  | none =>
    refine .inl ?_
    simp only [act, Pool.act, Pool.advance, Scan.Log.note, Pool.Log.note, Pool.Log.advanced, ha]
    rfl
  | some a => exact .inr (work_act (Pool.work_advance ha))

theorem cancel_work (u : Survey) : u.act .cancel = u ∨ (u.act .cancel).work < u.work := by
  rcases Pool.work_cancel u.scan.pool with hsame | hless
  · refine .inl ?_
    simp only [act, Pool.act, hsame]
    rfl
  · exact .inr (work_act hless)

/-- A step does nothing, takes an answer, or leaves less to do. -/
theorem change_work (h : Change u v) :
    v = u ∨ v.work < u.work ∨ ∃ x, v.log.heard = u.log.heard ++ [x] := by
  cases h with
  | idle => exact .inl rfl
  | hears | opens | fails => exact .inr (.inr ⟨_, rfl⟩)
  | @waits i t r hi =>
    have hpool : (u.scan.pool.startWait r).work ≤ u.scan.pool.work :=
      Pool.work_modifyRunner fun _ => Nat.le_refl _
    refine .inr (.inl (work_setProgress hi rfl ?_))
    simp only [act, Scan.withPool, Pool.act, Progress.work]
    omega
  | @refused i t r args todo hi _ =>
    have hpool : (u.scan.pool.drop r).work ≤ u.scan.pool.work :=
      Pool.work_modifyRunner fun _ => Nat.le_refl _
    refine .inr (.inl (work_setProgress hi rfl ?_))
    simp only [act, Scan.withPool, Pool.act, Progress.work]
    omega
  | @skips i t r args todo hi _ =>
    refine .inr (.inl (work_setProgress hi rfl ?_))
    simp only [Progress.work, List.length_cons]
    omega
  | @begins i t r args todo ending hi _ =>
    have hpool := Pool.work_accept r ⟨ending, .none⟩ u.scan.pool
    refine .inr (.inl (work_setProgress hi rfl ?_))
    simp only [begin, Scan.withPool, Progress.work, List.length_cons]
    omega
  | awaits _ hs => exact (await_work hs).imp_right .inl
  | @gives_up i t r e hi _ =>
    have hpool := Pool.work_await r u.scan.pool
    refine .inr (.inl (work_setProgress hi rfl ?_))
    simp only [send, act, Scan.withPool, Pool.act, Progress.work]
    omega
  | @settles i t r states hi _ =>
    have hpool := Pool.work_await r u.scan.pool
    refine .inr (.inl (work_setProgress hi rfl ?_))
    simp only [act, Scan.withPool, Pool.act, Progress.work]
    omega
  | advances k => exact (advance_work k u).imp_right .inl
  | cancels => exact (cancel_work u).imp_right .inl

theorem heard_take {m : Move} (hm : ¬m.IsAnswer) (u : Survey) :
    (u.take m).log.heard = u.log.heard := by
  have hsubmitted : ∀ i look ending s, (u.log.submitted i look ending s).heard = u.log.heard := by
    intro i look ending s
    unfold Scan.Log.submitted
    split
    · rfl
    · split <;> rfl
    · rfl
  cases m with
  | answer => exact absurd trivial hm
  | submit i gate free ending => exact hsubmitted _ _ _ _
  | await i =>
    simp only [take, Scan.Log.awaited]
    split
    · split <;> rfl
    · rfl
  | advance | cancel => rfl

theorem take_work {m : Move} (hm : u.Allows m) (hown : ¬m.IsAnswer) :
    u.take m = u ∨ (u.take m).work < u.work := by
  rcases change_work (change_take hm) with hsame | hless | ⟨x, hx⟩
  · exact .inl hsame
  · exact .inr hless
  · rw [heard_take hown] at hx
    simp at hx

theorem submit_moves {r : Nat} {todo : List ReadArgs} {free : Bool}
    (hi : u.scan.suppliers[i]? = some ⟨t, .submitting r todo⟩)
    (hmet : todo = [] ∨ u.scan.pool.look r free ≠ .pending) (ending : Ending State) :
    u.take (.submit i .scope free ending) ≠ u := by
  intro hsame
  have hnew : (u.take (.submit i .scope free ending)).scan.suppliers[i]? =
      some ⟨t, .submitting r todo⟩ := by rw [hsame, hi]
  cases todo with
  | nil =>
    simp [take, Scan.submitMeeting, hi, Scan.setProgress, Scan.withPool] at hnew
  | cons args todo =>
    cases hl : u.scan.pool.look r free with
    | pending => exact hmet.resolve_left (List.cons_ne_nil _ _) hl
    | refused | skipped | accepted =>
      simp [take, Scan.submitMeeting, Pool.lookFrom, hi, hl, Scan.setProgress,
        Scan.withPool] at hnew

theorem await_moves {r : Nat} (hi : u.scan.suppliers[i]? = some ⟨t, .waiting r⟩)
    (hp : u.scan.pool.phase? r = some .waiting) (hq : u.scan.pool.hasActive r = false) :
    u.take (.await i) ≠ u := by
  intro hsame
  have hpool : u.scan.pool.await r = u.scan.pool := by rw [← pool_await hi, hsame]
  have hlt := Pool.lt_of_phase?_eq_some hp
  have hsettle : ∀ outcome,
      u.scan.pool.await r ≠ u.scan.pool.modifyRunner r (·.inPhase (.settled outcome)) := by
    intro outcome ha
    have hphase : (u.scan.pool.modifyRunner r (·.inPhase (.settled outcome))).phase? r =
        some (.settled outcome) := Pool.phase?_modifyRunner_inPhase hlt
    rw [← ha, hpool, hp] at hphase
    cases hphase
  rcases Pool.await_cases r u.scan.pool with
    ⟨_, _, hactive⟩ | ⟨q, hq, _, ⟨_, _, ha⟩ | ⟨_, x, hx, _, ha⟩ | ⟨_, _, _, _, ha⟩⟩
  · simp [hactive hp] at hq
  · exact hsettle _ ha
  · have hless := Pool.work_join hq hx
    rw [← ha, hpool] at hless
    exact Nat.lt_irrefl _ hless
  · exact hsettle _ ha

theorem Sound.asks (h : Sound project types limit alerts u) {l : Listing}
    (hi : u.scan.suppliers[i]? = some ⟨t, .listing l⟩) : ∃ call, u.scan.request? i = some call := by
  have hplaced : Placed project u i t (.listing l) := h.placed i _ hi
  cases hplaced with
  | listing hheard hl =>
    rcases hheard.stands.asks_or_done with ⟨call, hcall⟩ | ⟨outcome, hdone⟩
    · exact ⟨call, by simp [Scan.request?, hi, h.tallies.project, hcall]⟩
    · exact absurd hdone (hl outcome)

/-- What comes next for a supplier that has not finished: a step of the oldest read, an answer to a
list call, a submission or a look of its wait. -/
theorem Sound.next_move (h : Sound project types limit alerts u) {progress : Progress}
    (hi : u.scan.suppliers[i]? = some ⟨t, progress⟩)
    (hopen : ∀ result, progress ≠ .finished result) :
    u.take (.advance 0) ≠ u ∨ (u.scan.request? i).isSome = true ∨
      (0 < u.scan.pool.free ∧ ∀ ending, u.take (.submit i .scope true ending) ≠ u) ∨
      u.take (.await i) ≠ u := by
  cases hactive : u.scan.pool.active with
  | cons a rest =>
    have ha : u.scan.pool.active[0]? = some a := by rw [hactive]; rfl
    have hless : (u.take (.advance 0)).work < u.work :=
      Nat.add_lt_add_left (Pool.work_advance ha) _
    exact .inl fun hsame => Nat.lt_irrefl _ (hsame ▸ hless)
  | nil =>
    have hplaced : Placed project u i t progress := h.placed i _ hi
    cases hplaced with
    | listing => exact .inr (.inl (Option.isSome_iff_exists.mpr (h.asks hi)))
    | submitting =>
      have hmoves := submit_moves hi (.inr (Pool.look_ne_pending _ _))
      exact .inr (.inr (.inl ⟨h.tallies.pool.free_pos hactive, hmoves⟩))
    | @waiting r args _ hphase =>
      have hquiet : u.scan.pool.hasActive r = false := by simp [Pool.hasActive, hactive]
      exact .inr (.inr (.inr (await_moves hi hphase hquiet)))
    | unlisted | refused | gave_up | settled => exact absurd rfl (hopen _)

end Survey

end CloudInventory
