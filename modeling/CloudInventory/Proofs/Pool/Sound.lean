import CloudInventory.Proofs.Pool.Log

/-! Every step that a pool allows keeps its log sound: no permit is lost or returned twice, no job
is counted twice, and a runner's error and endings are those that were recorded for it. -/

namespace CloudInventory

/-- The steps from this one to the return of the permit. -/
def Next.steps : Next → Nat
  | .record _ => 3
  | .mark => 2
  | .release => 1

def Active.stepsLeft (a : Active α) : Nat := a.next.steps

theorem Active.stepsLeft_pos (a : Active α) : 1 ≤ a.stepsLeft := by
  unfold stepsLeft
  cases a.next <;> simp [Next.steps]

theorem Active.stepsLeft_le (a : Active α) : a.stepsLeft ≤ 3 := by
  unfold stepsLeft
  cases a.next <;> simp [Next.steps]

namespace Pool

variable {α : Type} {limit i j k : Nat} {l l' : Log α} {p p' : Pool α} {r r' : Runner α}
  {job : Job α} {e : Error} {a : Active α}

section Log

@[simp] theorem Log.acceptedBy_accept (l : Log α) :
    (l.accept i job).acceptedBy j = l.acceptedBy j ++ if i = j then [job] else [] := by
  by_cases h : i = j <;> simp [Log.acceptedBy, Log.accept, h]

@[simp] theorem Log.errorsOf_accept (l : Log α) : (l.accept i job).errorsOf j = l.errorsOf j := rfl

@[simp] theorem Log.acceptedBy_record (l : Log α) :
    (l.record i e).acceptedBy j = l.acceptedBy j := rfl

@[simp] theorem Log.endedOf_record (l : Log α) : (l.record i e).endedOf j = l.endedOf j := rfl

@[simp] theorem Log.errorsOf_record (l : Log α) :
    (l.record i e).errorsOf j = l.errorsOf j ++ if i = j then [e] else [] := by
  by_cases h : i = j <;> simp [Log.errorsOf, Log.record, h]

@[simp] theorem Log.acceptedBy_finish (l : Log α) :
    (l.finish k).acceptedBy j = l.acceptedBy j := rfl

@[simp] theorem Log.errorsOf_finish (l : Log α) : (l.finish k).errorsOf j = l.errorsOf j := rfl

theorem Log.endedOf_accept (h : ∀ n ∈ l.ended, n < l.accepted.length) :
    (l.accept i job).endedOf j = l.endedOf j := by
  have ht : (l.accept i job).tasks l.ended = l.tasks l.ended :=
    List.filterMap_congr fun n hn => List.getElem?_append_left (h n hn)
  exact congrArg (ownedBy j) ht

theorem Log.endedOf_finish {n : Nat} (hn : l.running[k]? = some n)
    (ha : l.accepted[n]? = some (i, job)) :
    (l.finish k).endedOf j = l.endedOf j ++ if i = j then [job] else [] := by
  by_cases h : i = j <;> simp [Log.endedOf, Log.tasks, Log.finish, hn, ha, h]

end Log

section Runners

theorem exists_of_modifyRunner {f : Runner α → Runner α}
    (h : (p.modifyRunner i f).runners[j]? = some r') :
    ∃ r, p.runners[j]? = some r ∧ r' = if i = j then f r else r := by
  simp only [modifyRunner, List.getElem?_modify] at h
  cases hr : p.runners[j]? with
  | none => simp [hr] at h
  | some r => exact ⟨r, rfl, by simpa [hr] using h.symm⟩

theorem RunnerSound.frame (h : RunnerSound l p i r) (hsub : l'.acceptedBy i = l.acceptedBy i)
    (hend : l'.endedOf i = l.endedOf i) (herr : l'.errorsOf i = l.errorsOf i)
    (hact : ∀ a ∈ p'.active, a.owner = i → ∃ b ∈ p.active, b.owner = i)
    (hc : p.cancelled = true → p'.cancelled = true) : RunnerSound l' p' i r where
  submitted := by rw [h.submitted, hsub]
  endings := by rw [h.endings, hend]
  first := by rw [h.first, herr]
  failed hf := by rw [herr]; exact h.failed hf
  failures e he := by rw [herr]; exact h.failures e he
  panics report hp := by rw [herr]; exact h.panics report hp
  joined := h.joined
  settled outcome ho := by
    rcases h.settled outcome ho with ⟨hout, hcan⟩ | ⟨hout, hj, hq⟩
    · exact .inl ⟨hout, hc hcan⟩
    · refine .inr ⟨hout, hj, fun a ha hown => ?_⟩
      obtain ⟨b, hb, hbown⟩ := hact a ha hown
      exact hq b hb hbown

theorem RunnerSound.of_modify {f : Runner α → Runner α}
    (h : (p.modifyRunner i f).runners[j]? = some r')
    (hself : ∀ r, p.runners[i]? = some r → RunnerSound l' p' i (f r))
    (hother : ∀ r, p.runners[j]? = some r → i ≠ j → RunnerSound l' p' j r) :
    RunnerSound l' p' j r' := by
  obtain ⟨r, hr, rfl⟩ := exists_of_modifyRunner h
  by_cases hij : i = j
  · subst hij
    simpa using hself r hr
  · simpa [hij] using hother r hr hij

theorem RunnerSound.cancelled_of_active (h : RunnerSound l p i r) (ha : a ∈ p.active)
    (hown : a.owner = i) {outcome : Except Error (List α)} (ho : r.phase = .settled outcome) :
    outcome = .error .cancelled ∧ p.cancelled = true := by
  rcases h.settled outcome ho with hcan | ⟨_, _, hq⟩
  · exact hcan
  · exact absurd hown (hq a ha)

theorem RunnerSound.record (h : RunnerSound l p i r)
    (hq : ∀ outcome, r.phase = .settled outcome →
      outcome = .error .cancelled ∧ p.cancelled = true) (e : Error) :
    RunnerSound (l.record i e) p i (r.record e) where
  submitted := h.submitted
  endings := h.endings
  first := by simp [Runner.record, h.first, List.head?_append]
  failed := by simp
  failures := by simp
  panics := by simp
  joined := h.joined
  settled outcome ho := .inl (hq outcome ho)

end Runners

section Moves

theorem hasActive_eq_false : p.hasActive i = false ↔ ∀ a ∈ p.active, a.owner ≠ i := by
  simp [hasActive]

theorem mem_moveTo {stage : Stage} (ha : p.active[k]? = some a) {b : Active α}
    (h : b ∈ (p.moveTo k stage).active) : b ∈ p.active ∨ b = { a with stage := stage } := by
  rcases mem_of_mem_modify h with hb | ⟨c, hc, rfl⟩
  · exact .inl hb
  · rw [ha] at hc
    exact .inr (by rw [Option.some.inj hc])

theorem owned_of_moveTo {stage : Stage} (ha : p.active[k]? = some a) {b : Active α}
    (h : b ∈ (p.moveTo k stage).active) : ∃ c ∈ p.active, c.owner = b.owner := by
  rcases mem_moveTo ha h with hb | rfl
  · exact ⟨b, hb, rfl⟩
  · exact ⟨a, List.mem_of_getElem? ha, rfl⟩

/-- A step of an active job either tells its runner of a failure or is its last. -/
theorem advance_cases (ha : p.active[k]? = some a) (l : Log α) :
    (∃ f stage, p.advance k = (p.modifyRunner a.owner f).moveTo k stage ∧
      ({ a with stage := stage } : Active α).stepsLeft + 1 = a.stepsLeft ∧
      (∀ r, (f r).phase = r.phase ∧ (f r).endings = r.endings ∧ (f r).joined = r.joined ∧
        (r.failed = true → (f r).failed = true)) ∧
      (l.advanced k p).running = l.running ∧ (l.advanced k p).ended = l.ended) ∨
    (a.stepsLeft = 1 ∧ p.advance k = p.release k a ∧ l.advanced k p = l.finish k) := by
  cases hn : a.next with
  | record e =>
    refine .inl ⟨Runner.record e, .recorded, by simp [advance, ha, hn], ?_,
      fun _ => ⟨rfl, rfl, rfl, id⟩, ?_⟩
    · rw [Active.stepsLeft, Active.stepsLeft, hn]
      rfl
    · simp [Log.advanced, ha, hn, Log.record]
  | mark =>
    refine .inl ⟨Runner.mark, .marked, by simp [advance, ha, hn], ?_,
      fun _ => ⟨rfl, rfl, rfl, fun _ => rfl⟩, ?_⟩
    · rw [Active.stepsLeft, Active.stepsLeft, hn]
      rfl
    · simp [Log.advanced, ha, hn]
  | release =>
    exact .inr ⟨by simp [Active.stepsLeft, hn, Next.steps], by simp [advance, ha, hn],
      by simp [Log.advanced, ha, hn]⟩

theorem await_cases (i : Nat) (p : Pool α) :
    (p.await i = p ∧ p.joins? i = none ∧ (p.phase? i = some .waiting → p.hasActive i = true)) ∨
    ∃ r, p.runners[i]? = some r ∧ r.phase = .waiting ∧
      ((p.cancelled = true ∧ p.joins? i = none ∧
          p.await i = p.modifyRunner i (·.inPhase (.settled (.error .cancelled)))) ∨
        (p.cancelled = false ∧ ∃ x, r.endings[r.joined]? = some x ∧ p.joins? i = some x ∧
          p.await i = p.modifyRunner i Runner.join) ∨
        (p.cancelled = false ∧ r.endings.length ≤ r.joined ∧ p.joins? i = none ∧
          (∀ a ∈ p.active, a.owner ≠ i) ∧
          p.await i = p.modifyRunner i (·.inPhase (.settled r.outcome)))) := by
  cases hr : p.runners[i]? with
  | none => exact .inl ⟨by simp [await, hr], by simp [joins?, hr], by simp [phase?, hr]⟩
  | some r =>
    cases hp : r.phase with
    | collecting =>
      exact .inl ⟨by simp [await, hr, hp], by simp [joins?, hr, hp], by simp [phase?, hr, hp]⟩
    | settled outcome =>
      exact .inl ⟨by simp [await, hr, hp], by simp [joins?, hr, hp], by simp [phase?, hr, hp]⟩
    | dropped =>
      exact .inl ⟨by simp [await, hr, hp], by simp [joins?, hr, hp], by simp [phase?, hr, hp]⟩
    | waiting =>
      cases hc : p.cancelled with
      | true =>
        exact .inr ⟨r, rfl, hp, .inl ⟨rfl, by simp [joins?, hr, hp, hc],
          by simp [await, hr, hp, hc]⟩⟩
      | false =>
        by_cases hj : r.joined < r.endings.length
        · exact .inr ⟨r, rfl, hp, .inr (.inl ⟨rfl, r.endings[r.joined],
            List.getElem?_eq_getElem hj, by simp [joins?, hr, hp, hc, hj],
            by simp [await, hr, hp, hc, hj]⟩)⟩
        · have hnone : p.joins? i = none := by simp [joins?, hr, hp, hc, Nat.le_of_not_lt hj]
          cases ha : p.hasActive i with
          | true => exact .inl ⟨by simp [await, hr, hp, hc, hj, ha], hnone, fun _ => rfl⟩
          | false =>
            exact .inr ⟨r, rfl, hp, .inr (.inr ⟨rfl, Nat.le_of_not_lt hj, hnone,
              hasActive_eq_false.mp ha, by simp [await, hr, hp, hc, hj, ha]⟩)⟩

end Moves

namespace Sound

theorem new (limit : Nat) : Sound limit Log.empty (Pool.new limit : Pool α) where
  limit := rfl
  permits := rfl
  tasks := rfl
  once := .refl _
  owners := by simp [Log.empty]
  recorders := by simp [Log.empty]
  stages := by simp [Pool.new]
  runners := by simp [Pool.new]

theorem running_lt (h : Sound limit l p) : ∀ n ∈ l.ended ++ l.running, n < l.accepted.length :=
  fun _ hn => List.mem_range.mp (h.once.mem_iff.mp hn)

theorem ticket (h : Sound limit l p) (ha : p.active[k]? = some a) :
    ∃ n, l.running[k]? = some n ∧ l.accepted[n]? = some (a.owner, a.job) := by
  have hk := congrArg (·[k]?) h.tasks
  simp only [List.getElem?_map, ha, Option.map_some] at hk
  exact Option.map_eq_some_iff.mp hk

theorem owner_lt (h : Sound limit l p) (ha : a ∈ p.active) : a.owner < p.runners.length := by
  obtain ⟨k, hk⟩ := List.mem_iff_getElem?.mp ha
  obtain ⟨n, _, hn⟩ := h.ticket hk
  exact h.owners _ (List.mem_of_getElem? hn)

theorem errorsOf_eq_nil (h : Sound limit l p) (hi : p.runners.length ≤ i) :
    l.errorsOf i = [] := by
  apply ownedBy_eq_nil
  intro x hx hxi
  have := h.recorders x hx
  omega

theorem acceptedBy_eq_nil (h : Sound limit l p) (hi : p.runners.length ≤ i) :
    l.acceptedBy i = [] := by
  apply ownedBy_eq_nil
  intro x hx hxi
  have := h.owners x hx
  omega

theorem addRunner (h : Sound limit l p) : Sound limit l p.addRunner where
  limit := h.limit
  permits := h.permits
  tasks := h.tasks
  once := h.once
  owners x hx := by
    have := h.owners x hx
    simp only [Pool.addRunner, List.length_append, List.length_singleton]
    omega
  recorders x hx := by
    have := h.recorders x hx
    simp only [Pool.addRunner, List.length_append, List.length_singleton]
    omega
  stages := h.stages
  runners i r hr := by
    rcases Nat.lt_trichotomy i p.runners.length with hi | hi | hi
    · have hr' : p.runners[i]? = some r := by
        rwa [Pool.addRunner, List.getElem?_append_left hi] at hr
      exact (h.runners i r hr').frame rfl rfl rfl (fun a ha hown => ⟨a, ha, hown⟩) id
    · have hnew : r = Runner.new := by simpa [Pool.addRunner, hi] using hr.symm
      have hended : l.endedOf i = [] := by
        apply ownedBy_eq_nil
        intro x hx
        obtain ⟨n, _, hn⟩ := List.mem_filterMap.mp hx
        have := h.owners x (List.mem_of_getElem? hn)
        omega
      have herr := h.errorsOf_eq_nil (Nat.le_of_eq hi.symm)
      have hacc := h.acceptedBy_eq_nil (Nat.le_of_eq hi.symm)
      subst hnew
      constructor <;> simp [Runner.new, hended, herr, hacc]
    · have hlen : (p.runners ++ [Runner.new]).length ≤ i := by simp; omega
      simp [Pool.addRunner, List.getElem?_eq_none hlen] at hr

theorem accept (h : Sound limit l p) (hi : p.phase? i = some .collecting) (hf : 0 < p.free)
    (job : Job α) : Sound limit (l.accept i job) (p.accept i job) where
  limit := h.limit
  permits := by
    have := h.permits
    simp only [Pool.accept, modifyRunner, List.length_append, List.length_singleton]
    omega
  tasks := by
    have hold : l.running.map ((l.accept i job).accepted[·]?) = l.running.map (l.accepted[·]?) := by
      apply List.map_congr_left
      intro n hn
      exact List.getElem?_append_left (h.running_lt n (List.mem_append_right _ hn))
    simp only [Log.accept] at hold
    simp [Log.accept, Pool.accept, hold, h.tasks]
  once := by
    have hp := h.once.append_right [l.accepted.length]
    simpa [Log.accept, List.range_succ, List.append_assoc] using hp
  owners x hx := by
    simp only [Log.accept, List.mem_append, List.mem_singleton] at hx
    simp only [Pool.accept, modifyRunner, List.length_modify]
    rcases hx with hx | rfl
    · exact h.owners x hx
    · obtain ⟨r, hr, _⟩ := Option.map_eq_some_iff.mp hi
      exact (List.getElem?_eq_some_iff.mp hr).1
  recorders x hx := by
    simpa only [Pool.accept, modifyRunner, List.length_modify] using h.recorders x hx
  stages a ha hs := by
    simp only [Pool.accept, List.mem_append, List.mem_singleton] at ha
    rcases ha with ha | rfl
    · exact h.stages a ha hs
    · exact absurd rfl hs
  runners j r' hr' := by
    have hended : ∀ j, (l.accept i job).endedOf j = l.endedOf j := fun _ =>
      Log.endedOf_accept fun n hn => h.running_lt n (List.mem_append_left _ hn)
    refine RunnerSound.of_modify hr' (fun r hr => ?_) fun r hr hij => ?_
    · have hs := h.runners i r hr
      have hphase : r.phase = .collecting := by simpa [phase?, hr] using hi
      exact {
        submitted := by simp [Runner.accepted, hs.submitted]
        endings := by simp [Runner.accepted, hs.endings, hended i]
        first := hs.first
        failed := hs.failed
        failures := hs.failures
        panics := hs.panics
        joined := hs.joined
        settled := by simp [Runner.accepted, hphase] }
    · refine (h.runners j r hr).frame (by simp [hij]) (hended j) rfl ?_ id
      intro a ha hown
      simp only [Pool.accept, List.mem_append, List.mem_singleton] at ha
      rcases ha with ha | rfl
      · exact ⟨a, ha, hown⟩
      · exact absurd hown hij

theorem modifyRunner {f : Runner α → Runner α} (h : Sound limit l p)
    (hf : ∀ r, p.runners[i]? = some r → RunnerSound l p i (f r)) :
    Sound limit l (p.modifyRunner i f) where
  limit := h.limit
  permits := h.permits
  tasks := h.tasks
  once := h.once
  owners x hx := by simpa [Pool.modifyRunner] using h.owners x hx
  recorders x hx := by simpa [Pool.modifyRunner] using h.recorders x hx
  stages := h.stages
  runners j r' hr' := by
    refine RunnerSound.of_modify hr' (fun r hr => ?_) fun r hr _ => ?_
    · exact (hf r hr).frame rfl rfl rfl (fun a ha hown => ⟨a, ha, hown⟩) id
    · exact (h.runners j r hr).frame rfl rfl rfl (fun a ha hown => ⟨a, ha, hown⟩) id

theorem recordRunner {f : Runner α → Runner α} (h : Sound limit l p) (hi : i < p.runners.length)
    (hf : ∀ r, p.runners[i]? = some r → RunnerSound (l.record i e) p i (f r)) :
    Sound limit (l.record i e) (p.modifyRunner i f) where
  limit := h.limit
  permits := h.permits
  tasks := h.tasks
  once := h.once
  owners x hx := by simpa [Pool.modifyRunner] using h.owners x hx
  recorders x hx := by
    simp only [Log.record, List.mem_append, List.mem_singleton] at hx
    simp only [Pool.modifyRunner, List.length_modify]
    rcases hx with hx | rfl
    · exact h.recorders x hx
    · exact hi
  stages a ha hs := by simp [h.stages a ha hs]
  runners j r' hr' := by
    refine RunnerSound.of_modify hr' (fun r hr => ?_) fun r hr hij => ?_
    · exact (hf r hr).frame rfl rfl rfl (fun a ha hown => ⟨a, ha, hown⟩) id
    · exact (h.runners j r hr).frame rfl rfl (by simp [hij])
        (fun a ha hown => ⟨a, ha, hown⟩) id

theorem moveTo (h : Sound limit l p) (ha : p.active[k]? = some a) {stage : Stage}
    (hs : l.errorsOf a.owner ≠ []) : Sound limit l (p.moveTo k stage) where
  limit := h.limit
  permits := by simpa [Pool.moveTo] using h.permits
  tasks := by
    have hm := map_modify_of_eq (f := fun a : Active α => { a with stage := stage })
      (g := fun a => some (a.owner, a.job)) (fun _ => rfl) p.active k
    simpa [Pool.moveTo, hm] using h.tasks
  once := h.once
  owners := h.owners
  recorders := h.recorders
  stages b hb hbs := by
    rcases mem_moveTo ha hb with hb | rfl
    · exact h.stages b hb hbs
    · exact hs
  runners j r hr := by
    refine (h.runners j r hr).frame rfl rfl rfl (fun b hb hown => ?_) id
    obtain ⟨c, hc, hco⟩ := owned_of_moveTo ha hb
    exact ⟨c, hc, hco.trans hown⟩

theorem release (h : Sound limit l p) (ha : p.active[k]? = some a) (hn : a.next = .release) :
    Sound limit (l.finish k) (p.release k a) := by
  obtain ⟨n, hrun, hacc⟩ := h.ticket ha
  have hmem := List.mem_of_getElem? ha
  have hk := (List.getElem?_eq_some_iff.mp ha).1
  exact {
    limit := h.limit
    permits := by
      have := h.permits
      simp only [Pool.release, Pool.modifyRunner, List.length_eraseIdx_of_lt hk]
      omega
    tasks := by
      have ht := congrArg (·.eraseIdx k) h.tasks
      simp only [List.eraseIdx_map] at ht
      exact ht
    once := by
      have hp : (l.ended ++ n :: l.running.eraseIdx k).Perm (l.ended ++ l.running) :=
        (cons_eraseIdx_perm hrun).append_left l.ended
      simpa [Log.finish, hrun, List.append_assoc] using hp.trans h.once
    owners := fun x hx => by simpa [Pool.release, Pool.modifyRunner] using h.owners x hx
    recorders := fun x hx => by simpa [Pool.release, Pool.modifyRunner] using h.recorders x hx
    stages := fun b hb hs => h.stages b (List.mem_of_mem_eraseIdx hb) hs
    runners := fun j r' hr' => by
      refine RunnerSound.of_modify hr' (fun r hr => ?_) fun r hr hij => ?_
      · have hs := h.runners a.owner r hr
        exact {
          submitted := hs.submitted
          endings := by simp [Runner.ended, hs.endings, Log.endedOf_finish hrun hacc]
          first := hs.first
          failed := hs.failed
          failures := fun e he => by
            simp only [Runner.ended, List.mem_append, List.mem_singleton] at he
            rcases he with he | he
            · exact hs.failures e he
            · -- a failed job is released only after it has recorded its error
              have hstage : a.stage ≠ .running := by
                intro hs
                simp [Active.next, hs, ← he] at hn
              exact h.stages a hmem hstage
          panics := fun report hp => by
            rw [Runner.ended, List.take_append_of_le_length hs.joined] at hp
            exact hs.panics report hp
          joined := by
            have := hs.joined
            simp only [Runner.ended, List.length_append]
            omega
          settled := fun outcome ho => .inl (hs.cancelled_of_active hmem rfl ho) }
      · refine (h.runners j r hr).frame rfl ?_ rfl
          (fun b hb hown => ⟨b, List.mem_of_mem_eraseIdx hb, hown⟩) id
        simp [Log.endedOf_finish hrun hacc, hij] }

theorem advance (h : Sound limit l p) (k : Nat) :
    Sound limit (l.advanced k p) (p.advance k) := by
  cases ha : p.active[k]? with
  | none => simpa [Log.advanced, Pool.advance, ha] using h
  | some a =>
    have hmem := List.mem_of_getElem? ha
    cases hn : a.next with
    | record e =>
      simp only [Log.advanced, Pool.advance, ha, hn]
      refine (h.recordRunner (h.owner_lt hmem) fun r hr => ?_).moveTo ha (by simp)
      have hs := h.runners a.owner r hr
      exact hs.record (fun _ ho => hs.cancelled_of_active hmem rfl ho) e
    | mark =>
      have hstage : a.stage ≠ .running := by
        intro hs
        cases he : a.job.ending <;> simp [Active.next, hs, he] at hn
      have herr := h.stages a hmem hstage
      simp only [Log.advanced, Pool.advance, ha, hn]
      refine (h.modifyRunner fun r hr => ?_).moveTo ha herr
      exact { h.runners a.owner r hr with failed := fun _ => herr }
    | release => simpa [Log.advanced, Pool.advance, ha, hn] using h.release ha hn

theorem cancel (h : Sound limit l p) : Sound limit l p.cancel where
  limit := h.limit
  permits := h.permits
  tasks := h.tasks
  once := h.once
  owners := h.owners
  recorders := h.recorders
  stages := h.stages
  runners j r hr := (h.runners j r hr).frame rfl rfl rfl (fun a ha hown => ⟨a, ha, hown⟩)
    fun _ => rfl

theorem join (h : Sound limit l p) (hr : p.runners[i]? = some r) (hp : r.phase = .waiting)
    {x : Ending α} (hx : r.endings[r.joined]? = some x) :
    Sound limit (l.joined i (some x)) (p.modifyRunner i Runner.join) := by
  obtain ⟨hlt, _⟩ := List.getElem?_eq_some_iff.mp hx
  have hs := h.runners i r hr
  have htake : r.endings.take (r.joined + 1) = r.endings.take r.joined ++ [x] := by
    simp [List.take_add_one, hx]
  by_cases hpanic : ∃ report, x = .panic report
  · obtain ⟨report, rfl⟩ := hpanic
    refine h.recordRunner (List.getElem?_eq_some_iff.mp hr).1 fun q hq => ?_
    obtain rfl : r = q := Option.some.inj (hr.symm.trans hq)
    have hrec := hs.record (e := .task report) (by simp [hp])
    simp only [Runner.join, hx]
    exact { hrec with
      failed := by simp
      panics := by simp
      joined := hlt
      settled := by simp [Runner.record, Runner.mark, hp] }
  · have hlog : l.joined i (some x) = l := by cases x <;> simp_all [Log.joined]
    have hjoin : r.join = { r with joined := r.joined + 1 } := by
      cases x <;> simp_all [Runner.join]
    rw [hlog]
    refine h.modifyRunner fun q hq => ?_
    obtain rfl : r = q := Option.some.inj (hr.symm.trans hq)
    rw [hjoin]
    exact { hs with
      panics := fun report hm => by
        rw [htake, List.mem_append, List.mem_singleton] at hm
        rcases hm with hm | hm
        · exact hs.panics report hm
        · exact absurd ⟨report, hm.symm⟩ hpanic
      joined := hlt
      settled := by simp [hp] }

theorem await (h : Sound limit l p) (i : Nat) :
    Sound limit (l.joined i (p.joins? i)) (p.await i) := by
  rcases await_cases i p with ⟨ha, hj, _⟩ | ⟨r, hr, hp, hcase⟩
  · rw [ha, hj]
    exact h
  · have hs := h.runners i r hr
    rcases hcase with ⟨hc, hj, ha⟩ | ⟨hc, x, hx, hj, ha⟩ | ⟨hc, hle, hj, hq, ha⟩
    · rw [ha, hj]
      refine h.modifyRunner fun q hq => ?_
      exact { h.runners i q hq with
        settled := fun outcome ho => .inl ⟨by simpa [Runner.inPhase] using ho.symm, hc⟩ }
    · rw [ha, hj]
      exact h.join hr hp hx
    · rw [ha, hj]
      refine h.modifyRunner fun q hq' => ?_
      obtain rfl : r = q := Option.some.inj (hr.symm.trans hq')
      refine { hs with settled := fun outcome ho => ?_ }
      have hout : outcome = r.outcome := by simpa [Runner.inPhase] using ho.symm
      exact .inr ⟨hout, Nat.le_antisymm hs.joined hle, hq⟩

theorem leave (h : Sound limit l p) (i : Nat) {phase : Phase α}
    (hp : ∀ outcome, phase ≠ .settled outcome) :
    Sound limit l (p.modifyRunner i (·.inPhase phase)) :=
  h.modifyRunner fun r hr => { h.runners i r hr with
    settled := fun outcome ho => absurd ho (hp outcome) }

theorem act (h : Sound limit l p) {m : Act α} (hm : p.Allows m) :
    Sound limit (l.note m p) (p.act m) := by
  cases m with
  | addRunner => exact h.addRunner
  | accept i job => exact h.accept hm.1 hm.2 job
  | advance k => exact h.advance k
  | startWait i => exact h.leave i (by simp)
  | await i => exact h.await i
  | drop i => exact h.leave i (by simp)
  | cancel => exact h.cancel

end Sound

end Pool

end CloudInventory
