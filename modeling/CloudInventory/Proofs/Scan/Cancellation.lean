import CloudInventory.Proofs.Scan.Consistency
import CloudInventory.Proofs.Scan.Interrupted

/-! Cancellation never yields a partial or a different result. Whatever a supplier or the scanner
returns after the pool is cancelled is the cancellation, or is what the same schedule comes to
without it. -/

namespace CloudInventory

open Listing (Heard)

namespace Survey

variable {project : String} {types : List ResourceType} {limit : Nat} {alerts : Alerts}
  {u v : Survey} {i j : Nat} {passed : List Nat}

theorem Paired.sentBy (h : Paired passed u v) (hgone : u.gone i = false) :
    u.log.sentBy i = v.log.sentBy i := by
  rw [Scan.Log.sentBy, h.sent]
  exact ownedBy_filter (p := fun j => !u.gone j) (by simp [hgone]) v.log.sent

theorem Paired.sent_eq (h : Paired passed u v) (hgone : ∀ i, u.gone i = false) :
    u.log.sent = v.log.sent := by
  rw [h.sent]
  exact List.filter_eq_self.mpr fun x _ => by simp [hgone]

theorem Paired.results? (h : Paired passed u v) :
    Scan.results? u.scan.suppliers = some (.error .cancelled) ∨
      Scan.results? v.scan.suppliers = Scan.results? u.scan.suppliers := by
  refine Scan.results?_twin (List.forall₂_iff_get.mpr ⟨?_, fun i hi hj => ?_⟩)
  · simpa using (congrArg List.length h.types).symm
  · exact (h.twin i _ _ (List.getElem?_eq_getElem hi) (List.getElem?_eq_getElem hj)).result? _ _

theorem paired_refl (h : Sound project types limit alerts u) (passed : List Nat) :
    Paired passed u u where
  project := rfl
  types := rfl
  twin i p q hp hq := by
    obtain rfl := Option.some.inj (hp.symm.trans hq)
    exact .refl _ _
  sent := by
    refine (List.filter_eq_self.mpr fun x hx => ?_).symm
    refine Bool.not_eq_true' _ ▸ Bool.eq_false_iff.mpr fun hgone => ?_
    have hmem : x.2 ∈ u.log.sentBy x.1 := mem_ownedBy hx
    rw [h.sentBy_of_gone hgone] at hmem
    exact absurd hmem List.not_mem_nil

/-- A supplier that has finished is left as it is, and sends nothing more. -/
structure Finished (i : Nat) (u v : Survey) : Prop where
  supplier : v.scan.suppliers[i]? = u.scan.suppliers[i]?
  sent : v.log.sentBy i = u.log.sentBy i

theorem Finished.of_about (h : About j u v) (hij : i ≠ j) : Finished i u v where
  supplier := h.others i hij
  sent := by
    obtain ⟨more, hmore, hown⟩ := h.sent
    have hnone : ownedBy i more = [] :=
      ownedBy_eq_nil fun x hx hi => hij (hi.symm.trans (hown x hx))
    rw [Scan.Log.sentBy, hmore, ownedBy_append, hnone, List.append_nil]
    rfl

theorem finished_take {t : ResourceType} {result : Except Error (List Resource)}
    (hi : u.scan.suppliers[i]? = some ⟨t, .finished result⟩) (m : Move) :
    Finished i u (u.take m) := by
  cases m with
  | answer j page =>
    by_cases hij : i = j
    · subst hij
      rw [take_answer_of_ne hi (by simp)]
      exact ⟨rfl, rfl⟩
    · exact .of_about (about_answer j page u) hij
  | submit j gate free ending =>
    by_cases hij : i = j
    · subst hij
      rw [take_submit_of_ne hi (by simp)]
      exact ⟨rfl, rfl⟩
    · exact .of_about (about_submit j gate free ending u) hij
  | await j =>
    by_cases hij : i = j
    · subst hij
      rw [take_await_of_ne hi (by simp)]
      exact ⟨rfl, rfl⟩
    · exact .of_about (about_await j u) hij
  | advance | cancel => exact ⟨rfl, rfl⟩

end Survey

namespace Scanning

variable {project : String} {types : List ResourceType} {limit : Nat} {alerts : Alerts}
  {u u' v v' w : Scanning} {i : Nat} {m : Move} {ms ms' : List Move}
  {result : Except Error (List Resource)}

/-- What a scan returns, by its suppliers and by its scanner, is the cancellation or is what the
other returns. -/
structure Agrees (u v : Scanning) : Prop where
  supplier : ∀ i result, u.result? i = some result →
    (result = .error .cancelled ∧ u.log.sentBy i = []) ∨
      v.result? i = some result ∧ v.log.sentBy i = u.log.sentBy i
  returned : ∀ outcome, u.returned = some outcome → outcome = .error .cancelled ∨
    v.returned = some outcome ∧
      ∀ resources, outcome = .ok resources → v.scan.alerts = u.scan.alerts

theorem result_stays (h : u.result? i = some result) (m : Move) :
    (u.take m).result? i = some result ∧ (u.take m).log.sentBy i = u.log.sentBy i := by
  obtain ⟨t, hi⟩ := result?_eq_some.mp h
  rcases take_survey m u with hsame | ⟨n, _, htake⟩
  · simpa only [result?, scan, log, hsame, and_true] using h
  · have hfinished := Survey.finished_take hi n
    simpa only [result?, scan, log, htake, hfinished.supplier, hfinished.sent, and_true] using h

namespace Agrees

theorem refl (u : Scanning) : Agrees u u :=
  ⟨fun _ _ hi => .inr ⟨hi, rfl⟩, fun _ ho => .inr ⟨ho, fun _ _ => rfl⟩⟩

theorem of_rests (h : Agrees u v) (hu : Rests u u') : Agrees u' v where
  supplier i result hi := by
    rw [result?, hu.suppliers] at hi
    simp only [Scan.Log.sentBy, hu.sent]
    exact h.supplier i result hi
  returned outcome ho := by
    rw [hu.returned] at ho
    rw [hu.alerts]
    exact h.returned outcome ho

theorem later (h : Agrees u v) (m : Move) : Agrees u (v.take m) where
  supplier i result hi := by
    refine (h.supplier i result hi).imp_right fun ⟨hsame, hsent⟩ => ?_
    obtain ⟨hstays, hsent'⟩ := result_stays hsame m
    exact ⟨hstays, hsent'.trans hsent⟩
  returned outcome ho := by
    refine (h.returned outcome ho).imp_right fun ⟨hsame, halerts⟩ => ?_
    have hrest := rests_of_returned (u := v) (by simp [hsame]) m
    exact ⟨hrest.returned.trans hsame,
      fun resources hok => hrest.alerts.trans (halerts resources hok)⟩

/-- Both scanners take a step. -/
theorem withScanner (h : Agrees u v) {s s' : Scanner}
    (hs : s = u.scanner.look ∨ s = u.scanner.join)
    (hs' : s' = v.scanner.look ∨ s' = v.scanner.join)
    (hret : ∀ outcome, s.returned = some outcome → outcome = .error .cancelled ∨
      s'.returned = some outcome ∧
        ∀ resources, outcome = .ok resources → s'.scan.alerts = s.scan.alerts) :
    Agrees (u.withScanner s) (v.withScanner s') where
  supplier i result hi := by
    obtain ⟨hu, hlog⟩ := withScanner_rests hs
    obtain ⟨hv, hlog'⟩ := withScanner_rests hs'
    rw [result?, hu] at hi
    rw [result?, hv, hlog, hlog']
    exact h.supplier i result hi
  returned := hret

end Agrees

/-- A scan under a cancelled pool and its twin, as long as neither scanner has returned. -/
structure Lockstep (u v : Scanning) : Prop where
  cancelled : u.scan.pool.cancelled = true
  uncancelled : v.scan.pool.cancelled = false
  waits : u.returned = none
  waits_twin : v.returned = none
  paired : Survey.Paired u.passed u.survey v.survey

namespace Lockstep

theorem of_rests (h : Lockstep u v) (hu : Rests u u') (hc : u'.scan.pool.cancelled = true)
    (hp : u'.passed = u.passed) : Lockstep u' v :=
  { h with
    cancelled := hc
    waits := hu.returned.trans h.waits
    paired := hp ▸ h.paired.of_same hu.suppliers hu.project hu.sent }

theorem of_rests_twin (h : Lockstep u v) (hv : Rests v v') (hc : v'.scan.pool.cancelled = false) :
    Lockstep u v' :=
  { h with
    uncancelled := hc
    waits_twin := hv.returned.trans h.waits_twin
    paired := h.paired.of_same_twin hv.suppliers hv.project hv.sent }

theorem agrees (h : Lockstep u v) (hs : Survey.Sound project types limit alerts u.survey) :
    Agrees u v where
  supplier i result hi := by
    obtain ⟨t, ht⟩ := result?_eq_some.mp hi
    cases hgone : u.survey.gone i with
    | true =>
      obtain ⟨t', ht'⟩ := Survey.gone_iff.mp hgone
      have hresult := Option.some.inj (ht.symm.trans ht')
      rw [Supplier.mk.injEq, Progress.finished.injEq] at hresult
      exact .inl ⟨hresult.2, hs.sentBy_of_gone hgone⟩
    | false =>
      obtain ⟨progress, hj, htwin⟩ := h.paired.supplier ht
      rcases htwin.result? t t with hcan | hsame
      · obtain rfl := Option.some.inj hcan
        rw [Survey.gone_iff.mpr ⟨t, ht⟩] at hgone
        cases hgone
      · have hj' : v.scan.suppliers[i]? = some ⟨t, progress⟩ := hj
        refine .inr ⟨?_, (h.paired.sentBy hgone).symm⟩
        rw [result?, hj']
        exact hsame
  returned outcome ho := by
    rw [h.waits] at ho
    cases ho

section Moves

variable {n n' : Survey.Move}

theorem supply (h : Lockstep u v) (hn : n' ≠ .cancel)
    (hpaired : Survey.Paired u.passed (u.survey.take n) (v.survey.take n'))
    (hc : (u.supply n).scan.pool.cancelled = true) : Lockstep (u.supply n) (v.supply n') := by
  rw [supply_of_none h.waits] at hc ⊢
  rw [supply_of_none h.waits_twin]
  have hc' := (Survey.cancelled_take hn v.survey).trans h.uncancelled
  exact ⟨hc, hc', h.waits, h.waits_twin, hpaired⟩

theorem submit (h : Lockstep u v) (hu : Survey.Reached project types limit alerts u.survey)
    (hv : Survey.Reached project types limit alerts v.survey) (i : Nat) (gate : Gate)
    (free : Bool) (ending : Ending State) :
    Lockstep (u.take (.submit i gate free ending)) (v.take (.submit i gate free ending)) := by
  have hs := (survey_reached hu [.submit i gate free ending]).sound
  rw [run_cons, run_nil, submit_survey h.waits] at hs
  have hgate : i ∉ u.passed → u.entry i gate = .scope := fun hnot => by simp [entry, hnot]
  have hpaired := h.paired.submit (v.entry i gate) (free && decide (0 < v.scan.pool.free)) hs
    hv.sound h.cancelled h.uncancelled hgate
  refine ⟨cancelled_take h.cancelled _, ?_, submit_returned h.waits i gate free ending,
    submit_returned h.waits_twin i gate free ending, ?_⟩
  · have hc := Survey.cancelled_take (m := .submit i (v.entry i gate)
      (free && decide (0 < v.scan.pool.free)) ending) (by simp) v.survey
    rw [← submit_survey h.waits_twin] at hc
    exact hc.trans h.uncancelled
  · rw [submit_survey h.waits, submit_survey h.waits_twin]
    exact hpaired

theorem look (h : Lockstep u v) (hs : Survey.Sound project types limit alerts u.survey) :
    (u.take .look).returned = some (.error .cancelled) ∧ Agrees (u.take .look) (v.take .look) := by
  have hlook : u.scanner.look = u.scanner.finish (.error .cancelled) := by
    have hret : u.scanner.returned = none := h.waits
    have hc : u.scanner.scan.pool.cancelled = true := h.cancelled
    simp [Scanner.look, hret, hc]
  have hret : u.scanner.look.returned = some (.error .cancelled) := by
    rw [hlook]
    rfl
  refine ⟨hret, (h.agrees hs).withScanner (.inl rfl) (.inl rfl) fun outcome ho => .inl ?_⟩
  exact Option.some.inj (ho.symm.trans hret)

theorem alerts_eq (h : Lockstep u v) (hs : Survey.Sound project types limit alerts u.survey)
    (hs' : Survey.Sound project types limit alerts v.survey) {results : List (List Resource)}
    (hres : Scan.results? u.scan.suppliers = some (.ok results)) :
    v.scan.alerts = u.scan.alerts := by
  have hgone : ∀ i, u.survey.gone i = false := by
    intro i
    refine Bool.eq_false_iff.mpr fun hgone => ?_
    obtain ⟨t, ht⟩ := Survey.gone_iff.mp hgone
    have hmem := List.mem_map_of_mem (f := Supplier.result?) (List.mem_of_getElem? ht)
    rw [show u.survey.scan.suppliers = u.scan.suppliers from rfl, Scan.results?_ok hres] at hmem
    obtain ⟨found, _, hfound⟩ := List.mem_map.mp hmem
    cases hfound
  rw [scan, scan, hs'.tallies.alerts, hs.tallies.alerts, h.paired.sent_eq hgone]

theorem join (h : Lockstep u v) (hs : Survey.Sound project types limit alerts u.survey)
    (hs' : Survey.Sound project types limit alerts v.survey) :
    Lockstep (u.take .join) (v.take .join) ∨
      (u.take .join).returned ≠ none ∧ Agrees (u.take .join) (v.take .join) := by
  cases hres : Scan.results? u.scan.suppliers with
  | none =>
    have hsame : Scan.results? v.scan.suppliers = none := by
      rcases h.paired.results? with hgone | hsame
      · exact absurd (hres.symm.trans hgone) (by simp)
      · exact hsame.trans hres
    have hu : u.scanner.join = u.scanner := Scanner.join_of_none h.waits hres
    have hv : v.scanner.join = v.scanner := Scanner.join_of_none h.waits_twin hsame
    simp only [take, hu, hv]
    exact .inl ⟨h.cancelled, h.uncancelled, h.waits, h.waits_twin, h.paired⟩
  | some outcome =>
    have hu : u.scanner.join = u.scanner.finish outcome := Scanner.join_of_some h.waits hres
    have hret : u.scanner.join.returned = some (Scan.gathered outcome) := by
      rw [hu]
      exact congrArg some (Scan.conclude_fst outcome u.scan)
    refine .inr ⟨by simp only [take, Scanning.withScanner, hret, ne_eq, reduceCtorEq,
      not_false_eq_true], (h.agrees hs).withScanner (.inr rfl) (.inr rfl) fun returned ho => ?_⟩
    obtain rfl := Option.some.inj (hret.symm.trans ho)
    rcases h.paired.results? with hgone | hsame
    · obtain rfl := Option.some.inj (hres.symm.trans hgone)
      exact .inl rfl
    · have hv : v.scanner.join = v.scanner.finish outcome :=
        Scanner.join_of_some h.waits_twin (hsame.trans hres)
      refine .inr ⟨?_, fun resources hok => ?_⟩
      · rw [hv]
        exact congrArg some (Scan.conclude_fst outcome v.scan)
      · cases outcome with
        | error e => cases hok
        | ok results =>
          rw [hu, hv]
          exact h.alerts_eq hs hs' hres

end Moves

end Lockstep

/-- The moves of suppliers and of the scanner. -/
def Move.IsOwn : Move → Prop
  | .advance _ | .cancel => False
  | _ => True

/-- A schedule beside the same one without its cancellations. The suppliers and the scanner take
the same steps in both; reads there are fewer of after a cancellation, so their steps are free. -/
inductive Uncancelled : List Move → List Move → Prop
  | nil : Uncancelled [] []
  | same {m : Move} {ms ms' : List Move} : m.IsOwn → Uncancelled ms ms' →
      Uncancelled (m :: ms) (m :: ms')
  | cancel {ms ms' : List Move} : Uncancelled ms ms' → Uncancelled (.cancel :: ms) ms'
  | advance {ms ms' : List Move} (k : Nat) : Uncancelled ms ms' →
      Uncancelled (.advance k :: ms) ms'
  | advance_twin {ms ms' : List Move} (k : Nat) : Uncancelled ms ms' →
      Uncancelled ms (.advance k :: ms')

def Move.isCancel : Move → Bool
  | .cancel => true
  | _ => false

theorem uncancelled_filter (ms : List Move) : Uncancelled ms (ms.filter (!·.isCancel)) := by
  induction ms with
  | nil => exact .nil
  | cons m ms ih =>
    cases m with
    | cancel => exact .cancel ih
    | advance k => exact .advance_twin k (.advance k ih)
    | answer | pass | submit | await | look | join => exact .same trivial ih

/-- A scan under a cancelled pool goes on beside its twin until it returns. -/
def Follows (u v : Scanning) : Prop := Lockstep u v ∨ u.returned ≠ none ∧ Agrees u v

namespace Follows

theorem agrees (h : Follows u v) (hs : Survey.Sound project types limit alerts u.survey) :
    Agrees u v := h.elim (·.agrees hs) And.right

theorem own (h : Follows u v) (hu : Survey.Reached project types limit alerts u.survey)
    (hv : Survey.Reached project types limit alerts v.survey) (hm : m.IsOwn) :
    Follows (u.take m) (v.take m) := by
  rcases h with h | ⟨hr, h⟩
  · cases m with
    | answer i page =>
      exact .inl (h.supply (by simp) (h.paired.answer hu.sound hv.sound i page)
        (cancelled_take h.cancelled (.answer i page)))
    | await i =>
      exact .inl (h.supply (by simp) (h.paired.await hu.sound hv.sound h.cancelled i)
        (cancelled_take h.cancelled (.await i)))
    | submit i gate free ending => exact .inl (h.submit hu hv i gate free ending)
    | pass i =>
      have hnot : u.mayPass i = false := by simp [mayPass, h.cancelled]
      have hsame : u.take (.pass i) = u := by simp [take, hnot]
      have hc : (v.take (.pass i)).scan.pool = v.scan.pool := by
        simp only [take]
        split <;> rfl
      rw [hsame]
      exact .inl (h.of_rests_twin (rests_pass i v) (by rw [hc, h.uncancelled]))
    | look =>
      obtain ⟨hret, hagrees⟩ := h.look (v := v) hu.sound
      exact .inr ⟨by simp [hret], hagrees⟩
    | join => exact h.join hu.sound hv.sound
    | advance | cancel => exact hm.elim
  · have hrest := rests_of_returned hr m
    exact .inr ⟨hrest.returned ▸ hr, (h.of_rests hrest).later m⟩

theorem rests (h : Follows u v) (hu : Rests u u')
    (hc : u'.scan.pool.cancelled = u.scan.pool.cancelled ∨ u'.scan.pool.cancelled = true)
    (hp : u'.passed = u.passed) : Follows u' v := by
  rcases h with h | ⟨hr, h⟩
  · exact .inl (h.of_rests hu (hc.elim (·.trans h.cancelled) id) hp)
  · exact .inr ⟨hu.returned ▸ hr, h.of_rests hu⟩

theorem advance_twin (h : Follows u v) (k : Nat) : Follows u (v.take (.advance k)) := by
  rcases h with h | ⟨hr, h⟩
  · have hc : (v.take (.advance k)).scan.pool.cancelled = v.scan.pool.cancelled :=
      Pool.cancelled_advance k v.scan.pool
    exact .inl (h.of_rests_twin (rests_advance k v) (hc.trans h.uncancelled))
  · exact .inr ⟨hr, h.later _⟩

theorem run (h : Follows u v) (hu : Survey.Reached project types limit alerts u.survey)
    (hv : Survey.Reached project types limit alerts v.survey) (hms : Uncancelled ms ms') :
    Follows (u.run ms) (v.run ms') := by
  induction hms generalizing u v with
  | nil => exact h
  | @same m _ _ hm _ ih =>
    exact ih (h.own hu hv hm) (survey_reached hu [m]) (survey_reached hv [m])
  | cancel _ ih =>
    exact ih (h.rests (rests_cancel u) (.inr rfl) rfl) (survey_reached hu [.cancel]) hv
  | advance k _ ih =>
    exact ih (h.rests (rests_advance k u) (.inl (Pool.cancelled_advance k u.scan.pool)) rfl)
      (survey_reached hu [.advance k]) hv
  | advance_twin k _ ih => exact ih (h.advance_twin k) hu (survey_reached hv [.advance k])

end Follows

/-- A scan at the moment of its cancellation, and the one that goes on without it. -/
theorem follows_cancel {ms : List Move} (hms : .cancel ∉ ms) :
    let w := (start project types limit alerts).run ms
    Follows (w.take .cancel) w := by
  intro w
  by_cases hr : w.returned = none
  · have hscanner : Scanner.Reached (start project types limit alerts).scan w.scanner :=
      scanner_run hms (start project types limit alerts)
    have hsound := hscanner.sound rfl
    have hreached := run_survey project types limit alerts ms
    have hc : w.scan.pool.cancelled = false := hsound.uncancelled fun e he => by
      rw [show w.scanner.returned = w.returned from rfl, hr] at he
      cases he
    have hpaired : Survey.Paired w.passed (w.survey.take .cancel) w.survey :=
      (Survey.paired_refl hreached.sound w.passed).of_same rfl rfl rfl
    exact .inl ⟨rfl, hc, hr, hr, hpaired⟩
  · exact .inr ⟨hr, (Agrees.refl w).of_rests (rests_cancel w)⟩

/-- What a cancellation makes of a scan: `w` is the scan when the pool is cancelled, `u` the scan
some time later, and `v` what the same schedule has come to without the cancellation. -/
structure Interrupted (project : String) (types : List ResourceType) (w u v : Scanning) :
    Prop where
  supplier : ∀ i result, u.result? i = some result →
    (result = .error .cancelled ∧ u.log.sentBy i = []) ∨
      v.result? i = some result ∧ v.log.sentBy i = u.log.sentBy i
  /-- Reads are begun only for submissions that had looked at the scope before, one for each. -/
  begun : ∃ late : List Read, u.log.begun = w.log.begun ++ late ∧
    (late.map (·.supplier)).Subperm w.passed
  /-- A submission that looks at the scope begins no read. -/
  refuses : ∀ i gate free ending, u.entry i gate = .scope →
    (u.take (.submit i gate free ending)).log.begun = u.log.begun
  /-- A supplier that has listed its type, and had not ended at the cancellation, ends with it. -/
  listed : ∀ i t args, types[i]? = some t → w.result? i = none →
    Heard t project (u.log.heardBy i) (.done (.ok args)) →
    (∀ result, u.result? i = some result → result = .error .cancelled) ∧
    (u.returned = none → ∀ gate gate' free free' ending ending',
      (u.run [.submit i gate free ending, .submit i gate' free' ending', .await i]).result? i =
        some (.error .cancelled))
  returned : ∀ outcome, u.returned = some outcome → outcome = .error .cancelled ∨
    v.returned = some outcome ∧
      ∀ resources, outcome = .ok resources → v.scan.alerts = u.scan.alerts
  stops : u.returned = none → (u.take .look).returned = some (.error .cancelled)

theorem Halted.refuses (h : Halted w u) (i : Nat) (gate : Gate) (free : Bool)
    (ending : Ending State) (hentry : u.entry i gate = .scope) :
    (u.take (.submit i gate free ending)).log.begun = u.log.begun := by
  by_cases hr : u.returned = none
  · rw [log, submit_survey hr]
    rcases Survey.begun_submit i (u.entry i gate) (free && decide (0 < u.scan.pool.free)) ending
      u.survey with hsame | ⟨hnot, _⟩
    · exact hsame
    · exact absurd ⟨hentry, h.cancelled⟩ hnot
  · exact (rests_of_returned hr _).begun

/-- Once its listing is done, a supplier closes. -/
theorem Halted.closing (h : Halted w u) (hs : Survey.Sound project types limit alerts u.survey)
    {t : ResourceType} (ht : types[i]? = some t) (hw : w.result? i = none) {args : List ReadArgs}
    (hheard : Heard t project (u.log.heardBy i) (.done (.ok args))) :
    (∀ result, u.result? i = some result → result = .error .cancelled) ∧
      u.survey.Closing True i := by
  have htype := hs.tallies.listed
  have hi : (u.scan.suppliers.map (·.type))[i]? = some t := by rw [← ht, ← htype]; rfl
  rw [List.getElem?_map, Option.map_eq_some_iff] at hi
  obtain ⟨⟨t', progress⟩, hi, hsame⟩ := hi
  obtain rfl : t' = t := hsame
  have hplaced : Survey.Placed project u.survey i t' progress := hs.placed i _ hi
  have hopened : i ∈ u.log.opened := by
    cases hplaced with
    | listing hl hne => exact absurd (hl.unique hheard) (hne _)
    | unlisted hl => cases hl.unique hheard
    | submitting hl | waiting hl | refused hl | gave_up hl | settled hl =>
      exact List.mem_of_getElem? hl.opened
  have hresult : ∀ result, u.result? i = some result → result = .error .cancelled := by
    intro result hres
    obtain ⟨t, ht⟩ := result?_eq_some.mp hres
    exact (h.cut i hw t result ht).resolve_right fun hnot => hnot hopened
  refine ⟨hresult, ?_⟩
  cases progress with
  | listing l =>
    cases hplaced with
    | listing _ _ hnot => exact absurd hopened hnot
  | submitting r todo => exact .inr (.inr ⟨trivial, _, r, todo, hi⟩)
  | waiting r => exact .inr (.inl ⟨_, r, hi⟩)
  | finished result =>
    obtain rfl := hresult result (result?_eq_some.mpr ⟨_, hi⟩)
    exact .inl (Survey.gone_iff.mpr ⟨_, hi⟩)

/-- A scan whose pool is cancelled at any moment returns the cancellation or what it would have
returned, and so does each of its suppliers. -/
theorem cancels_or_agrees (project : String) (types : List ResourceType) (limit : Nat)
    (alerts : Alerts) {before after after' : List Move} (hbefore : .cancel ∉ before)
    (hafter : Uncancelled after after') :
    let w := (start project types limit alerts).run before
    Interrupted project types w ((w.take .cancel).run after) (w.run after') := by
  intro w
  have hw : Survey.Reached project types limit alerts w.survey :=
    run_survey project types limit alerts before
  have hstop : Survey.Reached project types limit alerts (w.take .cancel).survey :=
    survey_reached hw [.cancel]
  have hu := survey_reached hstop after
  have hhalted : Halted w ((w.take .cancel).run after) := (halted_cancel w).run hstop after
  have hfollows : Follows ((w.take .cancel).run after) (w.run after') :=
    (follows_cancel hbefore).run hstop hw hafter
  have hagrees := hfollows.agrees hu.sound
  refine ⟨hagrees.supplier, ?_, hhalted.refuses, fun i t args ht hnone hheard => ?_,
    hagrees.returned, fun hr => ?_⟩
  · obtain ⟨late, hlate, hsub⟩ := hhalted.begun
    exact ⟨late, hlate, (List.sublist_append_left _ _).subperm.trans hsub⟩
  · obtain ⟨hresult, hclosing⟩ := hhalted.closing hu.sound ht hnone hheard
    refine ⟨hresult, fun hr gate gate' free free' ending ending' => ?_⟩
    have hgone := gone_of_closing hu hhalted.cancelled hr hclosing gate gate' free free' ending
      ending'
    exact result?_eq_some.mpr (Survey.gone_iff.mp hgone)
  · rcases hfollows with hlock | ⟨hne, _⟩
    · exact (hlock.look hu.sound).1
    · exact absurd hr hne

/-- The zones are refused and two networks are listed, and a submission has passed its look. -/
def listedMoves : List Move :=
  [.answer 1 (.error (.api 403 "url" "denied")),
    .answer 0 (.ok networks),
    .pass 0]

def readingMoves : List Move :=
  [.submit 0 .permit true (.value (networkState "b")), .advance 0, .cancel,
    .submit 0 .scope true (.value (networkState "a")), .advance 0, .submit 0 .scope true (.panic ""),
    .await 0, .await 0, .await 0, .look, .join]

theorem readingMoves_cancelled :
    let w := (start "p" [.computeNetwork, .dnsManagedZone] 1 []).run listedMoves
    let u := (w.take .cancel).run readingMoves
    let v := w.run (readingMoves.filter (!·.isCancel))
    u.returned = some (.error .cancelled) ∧ u.result? 1 = some (.ok []) ∧
      u.log.begun.map (·.args.id) = ["b"] ∧
      v.returned = some (.ok (Inventory.sorted [network "b", network "a"])) ∧
      Interrupted "p" [.computeNetwork, .dnsManagedZone] w u v := by
  intro w u v
  have hlisted : .cancel ∉ listedMoves := by simp [listedMoves]
  have hinterrupted := cancels_or_agrees "p" [.computeNetwork, .dnsManagedZone] 1 [] hlisted
    (uncancelled_filter readingMoves)
  have hv : v = (start "p" [.computeNetwork, .dnsManagedZone] 1 []).run
      (listedMoves ++ readingMoves.filter (!·.isCancel)) := (run_append _ _ _).symm
  refine ⟨?_, ?_, ?_, ?_, hinterrupted⟩
  · rfl
  · rfl
  · rfl
  · rw [hv]
    rfl

end Scanning

end CloudInventory
