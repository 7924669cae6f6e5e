import CloudInventory.Proofs.Scan.Consistency
import CloudInventory.Proofs.Scan.Sourced
import CloudInventory.Scan.Schedule

/-! The schedule of a scan goes by the steps of its suppliers and of their reads, all answered by
its source, and cancels the pool only once it has failed. What it returns is thus what a survey of
the same types has found. -/

namespace CloudInventory

theorem Pool.await_of_settled {α : Type} {p : Pool α} {r : Nat} {outcome : Except Error (List α)}
    (h : p.settled? r = some outcome) : p.await r = p := by
  obtain ⟨runner, hrunner, hphase⟩ := Option.bind_eq_some_iff.mp h
  cases hp : runner.phase with
  | settled => simp only [await, hrunner, hp]
  | collecting | waiting | dropped => simp [hp] at hphase

theorem Pool.awaitFor_of_settled {α : Type} {p : Pool α} {r : Nat}
    {outcome : Except Error (List α)} (h : p.settled? r = some outcome) (n : Nat) :
    p.awaitFor r n = p := by
  induction n with
  | zero => rfl
  | succ n ih => rw [awaitFor, await_of_settled h, ih]

theorem Pool.awaitAll_eq {α : Type} (r : Nat) (p : Pool α) :
    ∃ n, p.awaitAll r = p.awaitFor r (n + 1) := by
  cases hrunner : p.runners[r]? with
  | none => exact ⟨0, by simp only [awaitAll, awaitFor, await, hrunner]⟩
  | some runner =>
    exact ⟨runner.endings.length - runner.joined, by simp only [awaitAll, hrunner]⟩

theorem Pool.free_of_isFirst {α : Type} {p : Pool α} {queue : List Nat} {i : Nat}
    (h : p.isFirst queue i = true) : 0 < p.free := Nat.zero_lt_of_lt (of_decide_eq_true h)

namespace Scan

variable {s s' s'' : Scan} {source : Source} {i r : Nat} {t : ResourceType}

theorem request?_of_turn {request : ListRequest} {cursor : Option String}
    (h : turn i s = .call request cursor) : s.request? i = some (request, cursor) := by
  cases hi : s.suppliers[i]? with
  | none => simp [turn, hi] at h
  | some p =>
    obtain ⟨t, progress⟩ := p
    cases progress with
    | listing l =>
      cases hreq : s.request? i with
      | none => simp [turn, hi, hreq] at h
      | some call => simpa [turn, hi, hreq, Prod.ext_iff] using h
    | submitting | waiting | finished => simp [turn, hi] at h

theorem submitting_of_turn (h : turn i s = .submit) :
    ∃ t r todo, s.suppliers[i]? = some ⟨t, .submitting r todo⟩ := by
  cases hi : s.suppliers[i]? with
  | none => simp [turn, hi] at h
  | some p =>
    obtain ⟨t, progress⟩ := p
    cases progress with
    | listing l => cases hreq : s.request? i <;> simp [turn, hi, hreq] at h
    | submitting r todo => exact ⟨t, r, todo, rfl⟩
    | waiting | finished => simp [turn, hi] at h

theorem waiting_of_turn (h : turn i s = .await r) :
    ∃ t, s.suppliers[i]? = some ⟨t, .waiting r⟩ := by
  cases hi : s.suppliers[i]? with
  | none => simp [turn, hi] at h
  | some p =>
    obtain ⟨t, progress⟩ := p
    cases progress with
    | listing l => cases hreq : s.request? i <;> simp [turn, hi, hreq] at h
    | waiting q =>
      obtain rfl : q = r := by simpa [turn, hi] using h
      exact ⟨t, rfl⟩
    | submitting | finished => simp [turn, hi] at h

/-- A submission asks for nothing but the ending of the next read. -/
theorem submitMeeting_congr {look : Nat → Pool.Look} {ending ending' : ReadArgs → Ending State}
    (h : ∀ args, s.nextRead? i = some args → ending args = ending' args) :
    s.submitMeeting i look ending = s.submitMeeting i look ending' := by
  cases hi : s.suppliers[i]? with
  | none => simp only [submitMeeting, hi]
  | some p =>
    obtain ⟨t, progress⟩ := p
    cases progress with
    | submitting r todo =>
      cases todo with
      | nil => simp only [submitMeeting, hi]
      | cons args todo =>
        have hending := h args (by simp [nextRead?, hi])
        simp only [submitMeeting, hi, hending]
    | listing | waiting | finished => simp only [submitMeeting, hi]

theorem await_of_settled {outcome : Except Error (List State)}
    (hi : s.suppliers[i]? = some ⟨t, .waiting r⟩)
    (h : (s.pool.await r).settled? r = some outcome) :
    (s.withPool (s.pool.await r)).await i = s.await i := by
  have hi' : (s.withPool (s.pool.await r)).suppliers[i]? = some ⟨t, .waiting r⟩ := hi
  have hpool : (s.withPool (s.pool.await r)).pool.await r = s.pool.await r :=
    Pool.await_of_settled h
  simp only [await, hi, hi', hpool]
  rfl

theorem await_of_unsettled (hi : s.suppliers[i]? = some ⟨t, .waiting r⟩)
    (h : (s.pool.await r).settled? r = none) : s.await i = s.withPool (s.pool.await r) := by
  have hnone : (s.withPool (s.pool.await r)).pool.settled? r = none := h
  simp only [await, hi, hnone]

end Scan

namespace Survey

open Scan (Queued)

/-- A step that has its answer from a source, and is no cancellation. -/
def Drives (source : Source) (u v : Survey) : Prop :=
  ∃ m, m ≠ .cancel ∧ u.Allows m ∧ m.IsFrom source u ∧ u.take m = v

/-- Such steps lead from one state of a scan to the other, whatever has been logged before. -/
def Goes (source : Source) (s s' : Scan) : Prop :=
  ∀ u : Survey, u.scan = s → ∃ v, Relation.ReflTransGen (Drives source) u v ∧ v.scan = s'

section Schedule

variable {source : Source} {s s' s'' : Scan} {i r : Nat} {t : ResourceType}

theorem Goes.refl (source : Source) (s : Scan) : Goes source s s := fun u hu => ⟨u, .refl, hu⟩

theorem Goes.trans (h : Goes source s s') (h' : Goes source s' s'') : Goes source s s'' := by
  intro u hu
  obtain ⟨v, huv, hv⟩ := h u hu
  obtain ⟨w, hvw, hw⟩ := h' v hv
  exact ⟨w, huv.trans hvw, hw⟩

theorem Goes.move {m : Move} (hm : m ≠ .cancel)
    (h : ∀ u : Survey, u.scan = s → u.Allows m ∧ m.IsFrom source u ∧ (u.take m).scan = s') :
    Goes source s s' := by
  intro u hu
  obtain ⟨hallows, hfrom, hscan⟩ := h u hu
  exact ⟨u.take m, .single ⟨m, hm, hallows, hfrom, rfl⟩, hscan⟩

theorem isFrom_page {request : ListRequest} {cursor : Option String} {u : Survey}
    (hreq : u.scan.request? i = some (request, cursor)) :
    (Move.answer i (source.page request cursor)).IsFrom source u := by
  intro call hcall
  obtain rfl := Option.some.inj (hreq.symm.trans hcall)
  rfl

theorem goes_answer {request : ListRequest} {cursor : Option String}
    (hreq : s.request? i = some (request, cursor)) :
    Goes source s (s.answer i (source.page request cursor)) := by
  refine .move (m := .answer i (source.page request cursor)) (by simp) ?_
  rintro u rfl
  exact ⟨trivial, isFrom_page hreq, rfl⟩

/-- A move carries the ending of its own read, where the schedule has one for every read. -/
theorem take_ending (source : Source) (i : Nat) (free : Bool) (u : Survey) :
    (u.take (.submit i .scope free (source.ending i u.scan))).scan =
      u.scan.submit i free fun args => .ofExcept (source.state args) :=
  Scan.submitMeeting_congr (isFrom_ending source i .scope free u)

theorem goes_submit (i : Nat) {free : Bool} (hfree : free = true → 0 < s.pool.free) :
    Goes source s (s.submit i free fun args => .ofExcept (source.state args)) := by
  refine .move (m := .submit i .scope free (source.ending i s)) (by simp) ?_
  rintro u rfl
  exact ⟨hfree, isFrom_ending source i .scope free u, take_ending source i free u⟩

theorem goes_await (source : Source) (i : Nat) (s : Scan) : Goes source s (s.await i) := by
  refine .move (m := .await i) (by simp) ?_
  rintro u rfl
  exact ⟨trivial, trivial, rfl⟩

theorem goes_advance (source : Source) (k : Nat) (s : Scan) : Goes source s (s.advance k) := by
  refine .move (m := .advance k) (by simp) ?_
  rintro u rfl
  exact ⟨trivial, trivial, rfl⟩

theorem goes_runJobs (source : Source) (gates : List String) (n : Nat) (s : Scan) :
    Goes source s (s.withPool (s.pool.runJobsFor gates n)) := by
  induction n generalizing s with
  | zero => exact .refl source s
  | succ n ih =>
    cases hk : s.pool.active.findIdx? fun a => Pool.isOpen gates a.job with
    | none =>
      rw [Pool.runJobsFor, hk]
      exact .refl source s
    | some k =>
      rw [Pool.runJobsFor, hk]
      exact (goes_advance source k s).trans (ih (s.advance k))

/-- From its first look on, a wait brings a scan to where it has ended, or there is nothing to take
in. -/
theorem goes_awaitFor (source : Source) (n : Nat) {s : Scan}
    (hi : s.suppliers[i]? = some ⟨t, .waiting r⟩) :
    let w := s.withPool (s.pool.awaitFor r (n + 1))
    Goes source (s.await i) (if (w.pool.settled? r).isSome then w.await i else w) := by
  intro w
  cases hs : (s.pool.await r).settled? r with
  | some outcome =>
    -- a wait that has ended stays as it is, so that the remaining looks change nothing
    have hw : w = s.withPool (s.pool.await r) :=
      congrArg s.withPool (Pool.awaitFor_of_settled hs n)
    have hsettled : w.pool.settled? r = some outcome := hw ▸ hs
    rw [hsettled, Option.isSome_some, if_pos rfl, hw, Scan.await_of_settled hi hs]
    exact .refl source (s.await i)
  | none =>
    rw [Scan.await_of_unsettled hi hs]
    cases n with
    | zero =>
      have hw : w.pool.settled? r = none := hs
      rw [hw]
      exact .refl source w
    | succ n =>
      have hi' : (s.withPool (s.pool.await r)).suppliers[i]? = some ⟨t, .waiting r⟩ := hi
      exact (goes_await source i _).trans (goes_awaitFor source n hi')

theorem goes_wait {q : Queued} (fuel : Nat) (hturn : Scan.turn i q.scan = .await r) :
    Goes source (q.scan.await i) (Scan.takeTurn source i (fuel + 1) q).scan := by
  obtain ⟨t, hi⟩ := Scan.waiting_of_turn hturn
  obtain ⟨n, hn⟩ := Pool.awaitAll_eq r q.scan.pool
  have hgoes := goes_awaitFor source n hi
  rw [← hn] at hgoes
  simp only [Scan.takeTurn, hturn]
  cases hs : (q.scan.withPool (q.scan.pool.awaitAll r)).pool.settled? r with
  | none => simpa only [hs, Option.isSome_none, Bool.false_eq_true, if_false] using hgoes
  | some outcome => simpa only [hs, Option.isSome_some, if_true] using hgoes

theorem goes_takeTurn (source : Source) (i fuel : Nat) (q : Queued) :
    Goes source q.scan (Scan.takeTurn source i fuel q).scan := by
  induction fuel generalizing q with
  | zero => exact .refl source q.scan
  | succ fuel ih =>
    cases hturn : Scan.turn i q.scan with
    | call request cursor =>
      simp only [Scan.takeTurn, hturn]
      have hrest := ih { q with scan := q.scan.answer i (source.page request cursor) }
      exact (goes_answer (Scan.request?_of_turn hturn)).trans hrest
    | submit =>
      simp only [Scan.takeTurn, hturn]
      split
      · exact .refl source q.scan
      · exact (goes_submit i Pool.free_of_isFirst).trans (ih ⟨_, q.queue.erase i⟩)
    | await r => exact (goes_await source i q.scan).trans (goes_wait fuel hturn)
    | _ =>
      simp only [Scan.takeTurn, hturn]
      exact .refl source q.scan

theorem goes_takeTurns (source : Source) (fuel : Nat) (is : List Nat) (q : Queued) :
    Goes source q.scan (Scan.takeTurns source fuel is q).scan := by
  induction is generalizing q with
  | nil => exact .refl source q.scan
  | cons i is ih =>
    have hturn := goes_takeTurn source i fuel q
    simp only [Scan.takeTurns]
    split
    · exact hturn
    · exact hturn.trans (ih _)

theorem goes_runRounds (source : Source) (fuel rounds : Nat) (q : Queued) :
    Goes source q.scan (Scan.runRounds source fuel rounds q).scan := by
  induction rounds generalizing q with
  | zero => exact .refl source q.scan
  | succ rounds ih =>
    let w := Scan.takeTurns source fuel (List.range q.scan.suppliers.length) q
    have hturns : Goes source q.scan w.scan :=
      goes_takeTurns source fuel (List.range q.scan.suppliers.length) q
    have hjobs : Goes source w.scan (w.scan.withPool (w.scan.pool.runJobs [])) :=
      goes_runJobs source [] _ w.scan
    simp only [Scan.runRounds]
    split
    · exact hturns
    · exact (hturns.trans hjobs).trans (ih ⟨w.scan.withPool (w.scan.pool.runJobs []), w.queue⟩)

end Schedule

section Reached

variable {project : String} {types : List ResourceType} {limit : Nat} {alerts : Alerts}
  {source : Source} {u v : Survey}

theorem Drives.step (h : Drives source u v) : Step u v := by
  obtain ⟨m, _, hallows, _, htake⟩ := h
  exact ⟨m, hallows, htake⟩

theorem sourced_of_drives (h : Relation.ReflTransGen (Drives source) u v)
    (hu : Sourced source u) : Sourced source v := by
  induction h with
  | refl => exact hu
  | tail _ hstep ih =>
    obtain ⟨m, _, _, hfrom, rfl⟩ := hstep
    exact ih.take hfrom

theorem cancelled_of_drives (h : Relation.ReflTransGen (Drives source) u v) :
    v.scan.pool.cancelled = u.scan.pool.cancelled := by
  induction h with
  | refl => rfl
  | tail _ hstep ih =>
    obtain ⟨m, hm, _, _, rfl⟩ := hstep
    exact (cancelled_take hm _).trans ih

/-- A scan that its source has answered so far, and that nothing has cancelled. -/
structure Executed (source : Source) (project : String) (types : List ResourceType) (limit : Nat)
    (alerts : Alerts) (u : Survey) : Prop where
  reached : Reached project types limit alerts u
  sourced : Sourced source u
  uncancelled : u.scan.pool.cancelled = false

theorem Executed.sound (h : Executed source project types limit alerts u) :
    Sound project types limit alerts u := h.reached.sound

/-- Where all suppliers have ended well, what they have found is of their types. -/
theorem Executed.found (h : Executed source project types limit alerts u)
    {results : List (List Resource)} (hres : Scan.results? u.scan.suppliers = some (.ok results)) :
    (∀ p ∈ u.scan.suppliers, ∃ found, p.progress = .finished (.ok found)) ∧
      ∀ x ∈ Inventory.sorted results.flatten, x.type ∈ types := by
  have hresults := Scan.results?_ok hres
  constructor
  · intro p hp
    have hmem : p.result? ∈ results.map fun found => some (.ok found) :=
      hresults ▸ List.mem_map_of_mem hp
    obtain ⟨found, _, hfound⟩ := List.mem_map.mp hmem
    have hfinished := Supplier.eq_of_result? hfound.symm
    exact ⟨found, congrArg Supplier.progress hfinished⟩
  · intro x hx
    obtain ⟨found, hfound, hmem⟩ :=
      List.mem_flatten.mp ((Inventory.sorted_perm results.flatten).mem_iff.mp hx)
    have hresult : some (.ok found) ∈ u.scan.suppliers.map Supplier.result? :=
      hresults ▸ List.mem_map_of_mem hfound
    obtain ⟨p, hp, hok⟩ := List.mem_map.mp hresult
    obtain ⟨i, hi⟩ := List.mem_iff_getElem?.mp hp
    rw [Supplier.eq_of_result? hok] at hi
    have htype := h.sound.tallies.type_of_supplier hi
    rw [(h.sound.of_mem h.uncancelled hi hmem).2]
    exact List.mem_iff_getElem?.mpr ⟨i, htype⟩

theorem Executed.alerted (h : Executed source project types limit [] u) {type : String}
    (halert : Dict.find? type u.scan.alerts ≠ none) : ∃ t ∈ types, t.name = type := by
  rw [h.sound.tallies.alerts] at halert
  obtain ⟨x, hx, rfl⟩ := mem_of_find?_sendAll halert
  obtain ⟨t, ht, hname⟩ := Option.map_eq_some_iff.mp (h.sound.tallies.senders x hx)
  exact ⟨t, List.mem_iff_getElem?.mpr ⟨x.1, ht⟩, hname⟩

theorem executed_start (source : Source) (project : String) (types : List ResourceType)
    (limit : Nat) (alerts : Alerts) :
    Executed source project types limit alerts (start project types limit alerts) where
  reached := .refl
  sourced := ⟨by simp [start, Scan.Log.empty], by simp [start, Scan.Log.empty]⟩
  uncancelled := rfl

theorem Executed.drives (h : Executed source project types limit alerts u)
    (hv : Relation.ReflTransGen (Drives source) u v) :
    Executed source project types limit alerts v where
  reached := h.reached.trans (Relation.ReflTransGen.mono (fun _ _ => Drives.step) _ _ hv)
  sourced := sourced_of_drives hv h.sourced
  uncancelled := (cancelled_of_drives hv).trans h.uncancelled

theorem executed_rounds (source : Source) (fuel rounds : Nat) (project : String)
    (types : List ResourceType) (limit : Nat) (alerts : Alerts) :
    ∃ u, Executed source project types limit alerts u ∧ u.scan = (Scan.runRounds source fuel rounds
      ⟨Scan.start project types (Pool.new limit) alerts, []⟩).scan := by
  have hgoes := goes_runRounds source fuel rounds
    ⟨Scan.start project types (Pool.new limit) alerts, []⟩
  obtain ⟨u, hdrives, hscan⟩ := hgoes (start project types limit alerts) rfl
  exact ⟨u, (executed_start source project types limit alerts).drives hdrives, hscan⟩

theorem run_of_rounds {fuel : Nat} (h : u.scan = (Scan.runRounds source fuel fuel
    ⟨Scan.start project types (Pool.new limit) alerts, []⟩).scan) :
    Scan.run source fuel (Scan.start project types (Pool.new limit) alerts) =
      Scan.conclude ((Scan.results? u.scan.suppliers).getD (.error .cancelled)) u.scan := by
  rw [h]
  rfl

/-- A scan returns what one of its surveys has come to. -/
theorem executed_run (source : Source) (fuel : Nat) (project : String)
    (types : List ResourceType) (limit : Nat) (alerts : Alerts) :
    ∃ u, Executed source project types limit alerts u ∧
      Scan.run source fuel (Scan.start project types (Pool.new limit) alerts) =
        Scan.conclude ((Scan.results? u.scan.suppliers).getD (.error .cancelled)) u.scan := by
  obtain ⟨u, hu, hscan⟩ := executed_rounds source fuel fuel project types limit alerts
  exact ⟨u, hu, run_of_rounds hscan⟩

end Reached

end Survey

end CloudInventory
