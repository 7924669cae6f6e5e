import CloudInventory.Proofs.Pool.Errors
import CloudInventory.Proofs.Pool.Serving
import CloudInventory.Proofs.Pool.Work

/-! First error wins. In an uncancelled pool a wait fails if and only if a job of its runner has
failed, with the error that was recorded first; in a cancelled one it ends with the cancellation,
and so does every submission that comes after it. -/

namespace CloudInventory.Dispatch

variable {α : Type} {limit i k : Nat} {u v : Dispatch α} {c : Call α} {m : Move α}

/-- A move is an act of the pool, or has only to do with the submissions in flight. -/
theorem take_acts (h : Sound limit u) (hm : u.Allows m) :
    ((u.take m).pool = u.pool ∧ (u.take m).log = u.log) ∨
    ∃ a, u.pool.Allows a ∧ (u.take m).pool = u.pool.act a ∧
      (u.take m).log = u.log.note a u.pool := by
  cases m with
  | openRunner => exact .inr ⟨.addRunner, trivial, rfl, rfl⟩
  | call | abandon => exact .inl ⟨rfl, rfl⟩
  | enter k =>
    cases hk : u.calls[k]? with
    | none => simp [take, hk]
    | some c => by_cases hc : u.pool.cancelled = true <;> simp [take, hk, hc, answer, goTo]
  | look k =>
    cases hk : u.calls[k]? with
    | none => simp [take, hk]
    | some c =>
      refine .inl ?_
      simp only [take, hk, lookAt]
      split_ifs <;> exact ⟨rfl, rfl⟩
  | acquire k =>
    cases hk : u.calls[k]? with
    | none => simp [take, hk]
    | some c =>
      by_cases hg : c.gate = .permit
      · by_cases hf : 0 < u.pool.free
        · have hphase := h.calls c (List.mem_of_getElem? hk)
          refine .inr ⟨.accept c.runner c.job, ⟨hphase, hf⟩, ?_⟩
          simp [take, hk, hg, acquireAt, hf, perform, answer]
        · exact .inl (by simp [take, hk, hg, acquireAt, hf, goTo])
      · exact .inl (by simp [take, hk, hg])
  | advance k => exact .inr ⟨.advance k, trivial, rfl, rfl⟩
  | startWait i => exact .inr ⟨.startWait i, hm.1, rfl, rfl⟩
  | await i => exact .inr ⟨.await i, trivial, rfl, rfl⟩
  | drop i => exact .inr ⟨.drop i, hm.1, rfl, rfl⟩
  | cancel => exact .inr ⟨.cancel, trivial, rfl, rfl⟩

theorem Reached.told (h : Reached limit u) : Pool.Told u.log u.pool := by
  induction h with
  | refl => exact ⟨by simp [start, Pool.new]⟩
  | @tail v w hv hstep ih =>
    obtain ⟨m, hm, rfl⟩ := hstep
    have hs : Sound limit v := Reached.sound hv
    rcases take_acts hs hm with ⟨hpool, hlog⟩ | ⟨a, _, hpool, hlog⟩
    · rw [hpool, hlog]
      exact ih
    · rw [hpool, hlog]
      exact ih.act hs.pool a

section Records

/-- The error that a move records for a runner. -/
inductive Tells (i : Nat) (u : Dispatch α) : Move α → Error → Prop
  | body {k a e} : u.pool.active[k]? = some a → a.owner = i → a.stage = .running →
      a.job.ending = .failure e → Tells i u (.advance k) e
  | panic {report} : u.pool.joins? i = some (.panic report) → Tells i u (.await i) (.task report)

/-- The errors of a runner grow by the one that the move records, if it records any. -/
def Records (i : Nat) (u : Dispatch α) (m : Move α) : Prop :=
  (∃ e, Tells i u m e ∧ (u.take m).log.errorsOf i = u.log.errorsOf i ++ [e]) ∨
    (∀ e, ¬Tells i u m e) ∧ (u.take m).log.errorsOf i = u.log.errorsOf i

theorem records_advance (i k : Nat) (u : Dispatch α) : Records i u (.advance k) := by
  have hlog : (u.take (.advance k)).log = u.log.advanced k u.pool := rfl
  rw [Records, hlog]
  cases ha : u.pool.active[k]? with
  | none =>
    refine .inr ⟨fun e htell => ?_, by simp [Pool.Log.advanced, ha]⟩
    cases htell with
    | body hget => simp [ha] at hget
  | some a =>
    by_cases hnew : a.owner = i ∧ ∃ e, a.next = .record e
    · obtain ⟨hown, e, hn⟩ := hnew
      obtain ⟨hstage, hending⟩ : a.stage = .running ∧ a.job.ending = .failure e := by
        unfold Active.next at hn
        split at hn <;> simp_all
      exact .inl ⟨e, .body ha hown hstage hending, by simp [Pool.Log.advanced, ha, hn, hown]⟩
    · refine .inr ⟨fun e htell => ?_, ?_⟩
      · cases htell with
        | body hget hown hstage hending =>
          obtain rfl := Option.some.inj (ha.symm.trans hget)
          exact hnew ⟨hown, e, by simp [Active.next, hstage, hending]⟩
      · cases hn : a.next with
        | record e =>
          have hown : a.owner ≠ i := fun hown => hnew ⟨hown, e, hn⟩
          simp [Pool.Log.advanced, ha, hn, hown]
        | mark => simp [Pool.Log.advanced, ha, hn]
        | release => simp [Pool.Log.advanced, ha, hn]

theorem records_await (i j : Nat) (u : Dispatch α) : Records i u (.await j) := by
  have hlog : (u.take (.await j)).log = u.log.joined j (u.pool.joins? j) := rfl
  rw [Records, hlog]
  by_cases hj : (∃ report, u.pool.joins? j = some (.panic report)) ∧ j = i
  · obtain ⟨⟨report, hpanic⟩, rfl⟩ := hj
    exact .inl ⟨.task report, .panic hpanic, by simp [hpanic, Pool.Log.joined]⟩
  · refine .inr ⟨fun e htell => ?_, ?_⟩
    · cases htell with
      | panic hpanic => exact hj ⟨⟨_, hpanic⟩, rfl⟩
    · cases hx : u.pool.joins? j with
      | none => rfl
      | some x =>
        cases x with
        | value a => rfl
        | failure e => rfl
        | panic report =>
          have hne : j ≠ i := fun he => hj ⟨⟨report, hx⟩, he⟩
          simp [Pool.Log.joined, hne]

theorem recorded_take (hadvance : ∀ k, m ≠ .advance k) (hawait : ∀ j, m ≠ .await j)
    (u : Dispatch α) : (u.take m).log.recorded = u.log.recorded := by
  cases m with
  | advance k => exact absurd rfl (hadvance k)
  | await j => exact absurd rfl (hawait j)
  | enter k =>
    simp only [take]
    split
    · rfl
    · split <;> rfl
  | look k =>
    simp only [take, lookAt]
    split
    · rfl
    · split_ifs <;> rfl
  | acquire k =>
    simp only [take, acquireAt]
    split
    · rfl
    · split_ifs <;> rfl
  | openRunner | call | abandon | startWait | drop | cancel => rfl

theorem take_records (i : Nat) (m : Move α) (u : Dispatch α) : Records i u m := by
  by_cases hadvance : ∃ k, m = .advance k
  · obtain ⟨k, rfl⟩ := hadvance
    exact records_advance i k u
  · by_cases hawait : ∃ j, m = .await j
    · obtain ⟨j, rfl⟩ := hawait
      exact records_await i j u
    · refine .inr ⟨fun e htell => ?_, ?_⟩
      · cases htell with
        | body => exact hadvance ⟨_, rfl⟩
        | panic => exact hawait ⟨_, rfl⟩
      · exact congrArg (ownedBy i)
          (recorded_take (not_exists.mp hadvance) (not_exists.mp hawait) u)

theorem errorsOf_grows (h : Relation.ReflTransGen Step u v) (i : Nat) :
    u.log.errorsOf i <+: v.log.errorsOf i := by
  induction h with
  | refl => exact List.prefix_refl _
  | @tail v w _ hstep ih =>
    obtain ⟨m, _, rfl⟩ := hstep
    rcases take_records i m v with ⟨e, _, herr⟩ | ⟨_, herr⟩
    · exact ih.trans (herr ▸ List.prefix_append _ _)
    · exact herr ▸ ih

def firstError? (i : Nat) (u : Dispatch α) : Option Error :=
  (u.pool.runners[i]?).bind (·.firstError)

theorem firstError?_eq (h : Sound limit u) (i : Nat) :
    u.firstError? i = (u.log.errorsOf i).head? := by
  cases hr : u.pool.runners[i]? with
  | none =>
    have hnil := h.pool.errorsOf_eq_nil (List.getElem?_eq_none_iff.mp hr)
    simp [firstError?, hr, hnil]
  | some r => simp [firstError?, hr, (h.pool.runners i r hr).first]

theorem firstError?_stays (h : Reached limit u) (hv : Relation.ReflTransGen Step u v) {e : Error}
    (he : u.firstError? i = some e) : v.firstError? i = some e := by
  have hreached : Reached limit v := Relation.ReflTransGen.trans h hv
  rw [firstError?_eq h.sound, List.head?_eq_some_iff] at he
  obtain ⟨rest, hu⟩ := he
  obtain ⟨more, hmore⟩ := errorsOf_grows hv i
  rw [firstError?_eq hreached.sound, ← hmore, hu]
  rfl

end Records

section Waits

theorem exists_owned (h : u.pool.hasActive i = true) :
    ∃ (k : Nat) (a : Active α), u.pool.active[k]? = some a ∧ a.owner = i := by
  obtain ⟨a, ha, hown⟩ := List.any_eq_true.mp h
  obtain ⟨k, hk⟩ := List.mem_iff_getElem?.mp ha
  exact ⟨k, a, hk, eq_of_beq hown⟩

/-- Steps of the jobs and looks of the wait lead to an outcome. -/
def Finishes (i : Nat) (u : Dispatch α) : Prop :=
  ∃ ms, (∀ m ∈ ms, (∃ k, m = .advance k) ∨ m = .await i) ∧
    ∃ outcome, (u.play ms).pool.settled? i = some outcome

theorem Finishes.cons (h : Finishes i (u.take m)) (hm : (∃ k, m = .advance k) ∨ m = .await i) :
    Finishes i u := by
  obtain ⟨ms, hms, hend⟩ := h
  exact ⟨m :: ms, List.forall_mem_cons.mpr ⟨hm, hms⟩, hend⟩

theorem finishes_of_settles (hw : u.pool.phase? i = some .waiting)
    {outcome : Except Error (List α)}
    (ha : u.pool.await i = u.pool.modifyRunner i (·.inPhase (.settled outcome))) :
    Finishes i u := by
  refine ⟨[.await i], by simp, outcome, ?_⟩
  have hend : (u.pool.await i).settled? i = some outcome := by
    rw [ha, Pool.settled?_eq_some]
    exact Pool.phase?_modifyRunner_inPhase (Pool.lt_of_phase?_eq_some hw)
  exact hend

theorem wait_finishes (hw : u.pool.phase? i = some .waiting) : Finishes i u := by
  -- every step of a job, and every ending that is taken in, leaves less work
  induction hn : u.pool.work using Nat.strongRecOn generalizing u with
  | ind n ih =>
    subst hn
    rcases Pool.await_cases i u.pool with
      ⟨_, _, hactive⟩ | ⟨r, hr, _, ⟨_, _, ha⟩ | ⟨_, x, hx, _, ha⟩ | ⟨_, _, _, _, ha⟩⟩
    · obtain ⟨k, a, hk, _⟩ := exists_owned (hactive hw)
      have hphase : (u.pool.advance k).phase? i = some .waiting := Pool.phase?_advance.trans hw
      have hrest : Finishes i (u.take (.advance k)) := ih _ (Pool.work_advance hk) hphase rfl
      exact hrest.cons (.inl ⟨k, rfl⟩)
    · exact finishes_of_settles hw ha
    · have hphase : (u.pool.await i).phase? i = some .waiting := by
        rw [ha, Pool.phase?_modifyRunner_of_keeps Pool.join_phase, hw]
      have hless : (u.pool.await i).work < u.pool.work := by
        rw [ha]
        exact Pool.work_join hr hx
      have hrest : Finishes i (u.take (.await i)) := ih _ hless hphase rfl
      exact hrest.cons (.inr rfl)
    · exact finishes_of_settles hw ha

theorem cancelled_reaches (h : Reached limit u) (hv : Relation.ReflTransGen Step u v)
    (hc : u.pool.cancelled = true) : v.pool.cancelled = true := by
  induction hv with
  | refl => exact hc
  | @tail v w hv hstep ih =>
    obtain ⟨m, hm, rfl⟩ := hstep
    have hs : Sound limit v := Reached.sound (Relation.ReflTransGen.trans h hv)
    rcases take_acts hs hm with ⟨hpool, _⟩ | ⟨a, _, hpool, _⟩
    · exact hpool ▸ ih
    · exact hpool ▸ Pool.cancelled_act a ih

theorem settled_reaches (h : Reached limit u) (hv : Relation.ReflTransGen Step u v)
    (hc : u.pool.cancelled = true)
    (hopen : ∀ outcome, u.pool.phase? i = some (.settled outcome) → outcome = .error .cancelled) :
    ∀ outcome, v.pool.phase? i = some (.settled outcome) → outcome = .error .cancelled := by
  induction hv with
  | refl => exact hopen
  | @tail v w hv hstep ih =>
    intro outcome hp
    obtain ⟨m, hm, rfl⟩ := hstep
    have hs : Sound limit v := Reached.sound (Relation.ReflTransGen.trans h hv)
    rcases take_acts hs hm with ⟨hpool, _⟩ | ⟨a, _, hpool, _⟩
    · exact ih outcome (hpool ▸ hp)
    · exact Pool.settled_act (cancelled_reaches h hv hc) ih a (hpool ▸ hp)

end Waits

section Submissions

/-- The submissions in flight that are past their look at the pool's cancellation. -/
def underway (u : Dispatch α) : List (Nat × Job α) :=
  (u.calls.filter (·.gate ≠ .scope)).map fun c => (c.runner, c.job)

def unrefused (answers : List (Answer α)) : List (Nat × Job α) :=
  (answers.filter (·.verdict ≠ .refused)).map fun x => (x.runner, x.job)

theorem poll_of_cancelled (hc : u.pool.cancelled = true) (hk : u.calls[k]? = some c) :
    u.poll k = u.answer k c .refused := by
  rw [poll_eq hk, if_pos hc]

theorem underway_perm (hk : u.calls[k]? = some c) (hg : c.gate ≠ .scope) :
    ((c.runner, c.job) :: ((u.calls.eraseIdx k).filter (·.gate ≠ .scope)).map
      fun c => (c.runner, c.job)).Perm u.underway := by
  have hp := ((cons_eraseIdx_perm hk).filter (·.gate ≠ .scope)).map fun c => (c.runner, c.job)
  simpa [hg, underway] using hp

theorem underway_erase (k : Nat) (u : Dispatch α) :
    (((u.calls.eraseIdx k).filter (·.gate ≠ .scope)).map fun c => (c.runner, c.job)).Subperm
      u.underway :=
  (((List.eraseIdx_sublist u.calls k).filter _).map _).subperm

/-- All that is answered between `u` and `v`, and not refused, was past its first look in `u`. -/
def Closes (u v : Dispatch α) : Prop :=
  ∃ late, v.answers = u.answers ++ late ∧ (unrefused late ++ v.underway).Subperm u.underway

theorem Closes.of_same (ha : v.answers = u.answers) (hu : v.underway.Subperm u.underway) :
    Closes u v := ⟨[], by simp [ha], hu⟩

theorem Closes.trans {w : Dispatch α} (h : Closes u v) (h' : Closes v w) : Closes u w := by
  obtain ⟨late, hlate, hsub⟩ := h
  obtain ⟨more, hmore, hnext⟩ := h'
  refine ⟨late ++ more, by simp [hmore, hlate], ?_⟩
  have happ := (List.subperm_append_left (unrefused late)).mpr hnext
  simpa [unrefused, List.append_assoc] using happ.trans hsub

theorem closes_answer {verdict : Verdict} (hk : u.calls[k]? = some c)
    (hv : verdict = .refused ∨ c.gate ≠ .scope) : Closes u (u.answer k c verdict) := by
  refine ⟨[⟨c.runner, c.job, verdict⟩], rfl, ?_⟩
  by_cases hr : verdict = .refused
  · subst hr
    exact underway_erase k u
  · have hp := underway_perm hk (hv.resolve_left hr)
    simpa [unrefused, hr, underway, answer] using hp.subperm

theorem closes_goTo (hk : u.calls[k]? = some c) : Closes u (u.goTo k .scope) := by
  have hp := modify_perm hk fun c => { c with gate := .scope }
  have hdrop := (hp.filter (·.gate ≠ .scope)).map fun c => (c.runner, c.job)
  have hgone : (u.goTo k .scope).underway.Perm
      (((u.calls.eraseIdx k).filter (·.gate ≠ .scope)).map fun c => (c.runner, c.job)) := by
    simpa [underway, goTo] using hdrop
  exact .of_same rfl (hgone.subperm.trans (underway_erase k u))

theorem closes_take (hc : u.pool.cancelled = true) (m : Move α) : Closes u (u.take m) := by
  have hsame : Closes u u := .of_same rfl (.refl _)
  cases m with
  | openRunner | advance | startWait | await | drop | cancel => exact .of_same rfl (.refl _)
  | call i job => exact .of_same rfl (by simpa [underway, take] using List.Subperm.refl u.underway)
  | abandon k => exact .of_same rfl (underway_erase k u)
  | enter k =>
    cases hk : u.calls[k]? with
    | none => simpa [take, hk] using hsame
    | some c => simpa [take, hk, hc] using closes_answer hk (.inl rfl)
  | look k =>
    cases hk : u.calls[k]? with
    | none => simpa [take, hk] using hsame
    | some c =>
      by_cases hg : c.gate = .mark
      · have hclosed : u.pool.isClosed c.runner = true := by simp [Pool.isClosed, hc]
        have hskipped : Closes u (u.answer k c .skipped) := closes_answer hk (.inr (by simp [hg]))
        simpa [take, hk, hg, lookAt, hclosed] using hskipped
      · simpa [take, hk, hg] using hsame
  | acquire k =>
    cases hk : u.calls[k]? with
    | none => simpa [take, hk] using hsame
    | some c =>
      by_cases hg : c.gate = .permit
      · by_cases hf : 0 < u.pool.free
        · have haccepted : Closes u ((u.answer k c (.accepted u.log.accepted.length)).perform
              (.accept c.runner c.job)) := closes_answer hk (.inr (by simp [hg]))
          simpa [take, hk, hg, acquireAt, hf] using haccepted
        · simpa [take, hk, hg, acquireAt, hf] using closes_goTo hk
      · simpa [take, hk, hg] using hsame

theorem closes_reaches (h : Reached limit u) (hv : Relation.ReflTransGen Step u v)
    (hc : u.pool.cancelled = true) : Closes u v := by
  induction hv with
  | refl => exact .of_same rfl (.refl _)
  | @tail v w hv hstep ih =>
    obtain ⟨m, _, rfl⟩ := hstep
    exact ih.trans (closes_take (cancelled_reaches h hv hc) m)

end Submissions

/-- How the errors of a runner's jobs, and the pool's cancellation, come out in its wait and in
the submissions to it. -/
structure FirstErrorWins (i : Nat) (u : Dispatch α) : Prop where
  fails : u.pool.cancelled = false → ∀ outcome, u.pool.settled? i = some outcome →
    ((∃ e, outcome = .error e) ↔ ∃ job ∈ u.log.acceptedBy i, ∃ e, job.ending.error? = some e)
  first : u.pool.cancelled = false → ∀ e, u.pool.settled? i = some (.error e) →
    (u.log.errorsOf i).head? = some e
  /-- Every failure of the runner's jobs has been recorded once. -/
  recorded : u.pool.cancelled = false → ∀ outcome, u.pool.settled? i = some outcome →
    (u.log.errorsOf i).Perm ((u.log.acceptedBy i).filterMap (·.ending.error?))
  /-- An error is recorded when the body of its job ends, a panic when the wait takes it in. -/
  records : ∀ m, Records i u m
  kept : ∀ v, Relation.ReflTransGen Step u v →
    u.log.errorsOf i <+: v.log.errorsOf i ∧
      ∀ e, u.firstError? i = some e → v.firstError? i = some e
  ends : u.pool.phase? i = some .waiting →
    ∃ ms, (∀ m ∈ ms, (∃ k, m = .advance k) ∨ m = .await i) ∧
      ∃ outcome, (u.play ms).pool.settled? i = some outcome
  /-- A cancellation before the last ending is taken in, or before the wait is over, is all that
  the wait returns. -/
  cancelled : ∀ r, u.pool.runners[i]? = some r →
    r.joined < r.submitted ∨ u.pool.settled? i = none →
    ∀ v, Relation.ReflTransGen Step (u.take .cancel) v → ∀ outcome,
      v.pool.settled? i = some outcome → outcome = .error .cancelled
  unblocked : u.pool.cancelled = true → u.pool.phase? i = some .waiting →
    (u.take (.await i)).pool.settled? i = some (.error .cancelled)
  refused : u.pool.cancelled = true → ∀ k c, u.calls[k]? = some c →
    u.poll k = u.answer k c .refused
  /-- Only a submission that was past its first look at the cancellation is not refused. -/
  late : u.pool.cancelled = true → ∀ v, Relation.ReflTransGen Step u v →
    ∃ late, v.answers = u.answers ++ late ∧ (unrefused late).Subperm u.underway

theorem first_error_wins (h : Reached limit u) (i : Nat) : u.FirstErrorWins i where
  fails hc outcome hw := by
    have hphase := Pool.settled?_eq_some.mp hw
    have hperm := h.sound.pool.recorded_perm h.told hc hphase
    rw [h.sound.pool.outcome_eq hc hphase]
    constructor
    · intro herr
      obtain ⟨e, he⟩ := List.exists_mem_of_ne_nil _ herr
      obtain ⟨job, hjob, herror⟩ := List.mem_filterMap.mp (hperm.mem_iff.mp he)
      exact ⟨job, hjob, e, herror⟩
    · rintro ⟨job, hjob, e, herror⟩
      have he := hperm.mem_iff.mpr (List.mem_filterMap.mpr ⟨job, hjob, herror⟩)
      exact List.ne_nil_of_mem he
  first hc e hw := h.sound.pool.settled_error hc (Pool.settled?_eq_some.mp hw)
  recorded hc outcome hw :=
    h.sound.pool.recorded_perm h.told hc (Pool.settled?_eq_some.mp hw)
  records m := take_records i m u
  kept v hv := ⟨errorsOf_grows hv i, fun _ => firstError?_stays h hv⟩
  ends hw := wait_finishes hw
  cancelled r hr hopen v hv outcome hw := by
    have hnow : Reached limit (u.take .cancel) := h.tail ⟨.cancel, trivial, rfl⟩
    have hset : ∀ outcome, u.pool.phase? i = some (.settled outcome) →
        outcome = .error .cancelled := fun _ => h.sound.pool.settled_of_open hr hopen
    exact settled_reaches hnow hv rfl hset outcome (Pool.settled?_eq_some.mp hw)
  unblocked hc hw := Pool.settled?_await_of_cancelled hc hw
  refused hc _ _ hk := poll_of_cancelled hc hk
  late hc v hv := by
    obtain ⟨late, hlate, hsub⟩ := closes_reaches h hv hc
    exact ⟨late, hlate, (List.sublist_append_left _ _).subperm.trans hsub⟩

/-- A panic ends first but is recorded last, when the wait takes it in. -/
def panickingMoves : List (Move Nat) :=
  [.openRunner, .call 0 ⟨.panic "boom", .none⟩, .enter 0, .look 0, .acquire 0,
    .call 0 ⟨.failure (.auth "expired"), .none⟩, .enter 0, .look 0, .acquire 0, .advance 0, .startWait 0,
    .advance 0, .advance 0, .await 0, .advance 0, .await 0, .await 0]

theorem panickingMoves_fails :
    let u := (start 2).play panickingMoves
    Reached 2 u ∧ u.pool.settled? 0 = some (.error (.auth "expired")) ∧
      u.log.errorsOf 0 = [.auth "expired", .task "boom"] ∧ u.FirstErrorWins 0 := by
  have hr : Reached 2 ((start 2).play panickingMoves) := reaches_play (by decide)
  exact ⟨hr, rfl, rfl, first_error_wins hr 0⟩

end CloudInventory.Dispatch
