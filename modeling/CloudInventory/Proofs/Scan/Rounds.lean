import CloudInventory.Proofs.Scan.Executed
import CloudInventory.Proofs.Scan.Rank

/-! The rounds of a scan over a source whose listings end. A round that leaves some supplier
unfinished lowers the rank, so that a scan with more fuel than its rank comes to its end. -/

namespace CloudInventory

namespace Pool

variable {α : Type} {p : Pool α} {a : Active α}

theorem work_advance_found {f : Active α → Bool} {k : Nat} (h : p.active.findIdx? f = some k) :
    (p.advance k).work < p.work := by
  obtain ⟨hlt, _⟩ := List.findIdx?_eq_some_iff_getElem.mp h
  exact work_advance (List.getElem?_eq_getElem hlt)

theorem work_runJobsFor (gates : List String) (n : Nat) (p : Pool α) :
    (p.runJobsFor gates n).work ≤ p.work := by
  induction n generalizing p with
  | zero => exact Nat.le_refl _
  | succ n ih =>
    cases hk : p.active.findIdx? fun a => isOpen gates a.job with
    | none =>
      rw [runJobsFor, hk]
    | some k =>
      rw [runJobsFor, hk]
      exact (ih (p.advance k)).trans (work_advance_found hk).le

theorem work_runJobs (gates : List String) (ha : a ∈ p.active) (hold : a.job.hold = .none) :
    (p.runJobs gates).work < p.work := by
  have hopen : isOpen gates a.job = true := by simp only [isOpen, hold]
  obtain ⟨k, hk⟩ : ∃ k, (p.active.findIdx? fun a => isOpen gates a.job) = some k :=
    Option.isSome_iff_exists.mp (List.findIdx?_isSome.trans (List.any_eq_true.mpr ⟨a, ha, hopen⟩))
  have hpos : 0 < p.active.length := List.length_pos_of_mem ha
  obtain ⟨n, hn⟩ : ∃ n, 3 * p.active.length = n + 1 :=
    Nat.exists_eq_add_one_of_ne_zero (by omega)
  rw [runJobs, hn, runJobsFor, hk]
  exact (work_runJobsFor gates n (p.advance k)).trans_lt (work_advance_found hk)

theorem isFirst_of_head {queue : List Nat} {i : Nat} (hfree : 0 < p.free)
    (h : queue = [] ∨ queue.head? = some i) : p.isFirst queue i = true := by
  have hidx : queue.idxOf i = 0 := by
    cases queue with
    | nil => rfl
    | cons j queue =>
      obtain rfl : j = i := by simpa using h
      exact List.idxOf_cons_self
  simpa only [isFirst, hidx, decide_eq_true_eq] using hfree

end Pool

namespace Scan

variable {s : Scan} {q : Queued} {source : Source} {i : Nat} {t : ResourceType}

theorem rank_withPool_le {pool : Pool State} (h : pool.work ≤ s.pool.work) :
    (s.withPool pool).rank source ≤ s.rank source :=
  Nat.add_le_add_left (Nat.add_le_add_left h _) _

theorem rank_withPool_lt {pool : Pool State} (h : pool.work < s.pool.work) :
    (s.withPool pool).rank source < s.rank source :=
  Nat.add_lt_add_left (Nat.add_lt_add_left h _) _

/-- Whoever has to wait has a read to submit, and others before it. -/
theorem reads_of_mustWait (h : mustWait i q = true) :
    (∃ t r args todo, q.scan.suppliers[i]? = some ⟨t, .submitting r (args :: todo)⟩) ∧
      q.scan.pool.isFirst q.queue i = false := by
  unfold mustWait at h
  split at h
  · rename_i t r args todo hi
    refine ⟨⟨t, r, args, todo, hi⟩, Bool.eq_false_iff.mpr fun hfirst => ?_⟩
    rw [hfirst] at h
    exact Pool.look_ne_pending r q.scan.pool (eq_of_beq h)
  · cases h

theorem met_of_not_mustWait {r : Nat} {todo : List ReadArgs} (h : ¬mustWait i q = true)
    (hi : q.scan.suppliers[i]? = some ⟨t, .submitting r todo⟩) :
    todo = [] ∨ q.scan.pool.look r (q.scan.pool.isFirst q.queue i) ≠ .pending := by
  cases todo with
  | nil => exact .inl rfl
  | cons args todo => exact .inr fun hl => h (by simp [mustWait, hi, hl])

/-- Each supplier in the queue is there once, with a read to submit. -/
structure InLine (q : Queued) : Prop where
  nodup : q.queue.Nodup
  reads : ∀ j ∈ q.queue, ∃ t r args todo,
    q.scan.suppliers[j]? = some ⟨t, .submitting r (args :: todo)⟩

namespace InLine

theorem not_mem (h : InLine q) {progress : Progress}
    (hi : q.scan.suppliers[i]? = some ⟨t, progress⟩)
    (hne : ∀ r todo, progress ≠ .submitting r todo) : i ∉ q.queue := by
  intro hmem
  obtain ⟨t', r, args, todo, hi'⟩ := h.reads i hmem
  rw [hi] at hi'
  cases hi'
  exact hne r _ rfl

theorem of_others (h : InLine q) (hi : i ∉ q.queue)
    (hothers : ∀ j, j ≠ i → s.suppliers[j]? = q.scan.suppliers[j]?) :
    InLine { q with scan := s } where
  nodup := h.nodup
  reads j hj := by
    have hne : j ≠ i := fun he => hi (he ▸ hj)
    rw [hothers j hne]
    exact h.reads j hj

theorem erase (h : InLine q) (i : Nat) : InLine { q with queue := q.queue.erase i } where
  nodup := h.nodup.erase i
  reads j hj := h.reads j (List.mem_of_mem_erase hj)

theorem append (h : InLine q) (hi : i ∉ q.queue) (hwait : mustWait i q = true) :
    InLine { q with queue := q.queue ++ [i] } where
  nodup := List.nodup_append.mpr ⟨h.nodup, by simp, by
    intro a ha b hb
    obtain rfl := List.mem_singleton.mp hb
    exact fun he => hi (he ▸ ha)⟩
  reads j hj := by
    rcases List.mem_append.mp hj with hj | hj
    · exact h.reads j hj
    · obtain rfl := List.mem_singleton.mp hj
      exact (reads_of_mustWait hwait).1

theorem takeTurn (h : InLine q) (source : Source) (i fuel : Nat) :
    InLine (takeTurn source i fuel q) := by
  induction fuel generalizing q with
  | zero => exact h
  | succ fuel ih =>
    cases hturn : turn i q.scan with
    | call request cursor =>
      obtain ⟨⟨t, progress⟩, hi, hcall⟩ := Option.bind_eq_some_iff.mp (request?_of_turn hturn)
      simp only [Scan.takeTurn, hturn]
      refine ih (h.of_others (h.not_mem hi fun r todo hp => ?_) ?_)
      · rw [hp] at hcall
        cases hcall
      · exact (Survey.about_answer i (source.page request cursor) ⟨q.scan, .empty⟩).others
    | submit =>
      simp only [Scan.takeTurn, hturn]
      split
      · rename_i hwait
        split
        · exact h
        · rename_i hmem
          exact h.append (by simpa using hmem) hwait
      · refine ih ((h.erase i).of_others h.nodup.not_mem_erase fun j hj => ?_)
        have htake := Survey.take_ending source i (q.scan.pool.isFirst q.queue i) ⟨q.scan, .empty⟩
        rw [← htake]
        exact (Survey.about_submit i .scope _ _ ⟨q.scan, .empty⟩).others j hj
    | await r =>
      obtain ⟨t, hi⟩ := waiting_of_turn hturn
      have hmem := h.not_mem hi (by simp)
      simp only [Scan.takeTurn, hturn]
      split
      · exact h.of_others hmem
          (Survey.about_await i ⟨q.scan.withPool (q.scan.pool.awaitAll r), .empty⟩).others
      · exact h.of_others hmem fun _ _ => rfl
    | _ =>
      simp only [Scan.takeTurn, hturn]
      exact h

theorem takeTurns (h : InLine q) (source : Source) (fuel : Nat) (is : List Nat) :
    InLine (takeTurns source fuel is q) := by
  induction is generalizing q with
  | nil => exact h
  | cons i is ih =>
    simp only [Scan.takeTurns]
    split
    · exact h.takeTurn source i fuel
    · exact ih (h.takeTurn source i fuel)

end InLine

end Scan

namespace Survey

open Scan (Queued InLine)

variable {project : String} {types : List ResourceType} {limit : Nat} {alerts : Alerts}
  {source : Source} {u v : Survey} {i : Nat} {s : Scan} {q : Queued}

theorem Sound.hold_none (h : Sound project types limit alerts u) {a : Active State}
    (ha : a ∈ u.scan.pool.active) : a.job.hold = .none := by
  obtain ⟨k, hk⟩ := List.mem_iff_getElem?.mp ha
  obtain ⟨n, _, hn⟩ := h.tallies.pool.ticket hk
  rw [h.tallies.accepted, List.getElem?_map] at hn
  obtain ⟨b, _, hb⟩ := Option.map_eq_some_iff.mp hn
  exact congrArg (fun x => x.2.hold) hb.symm

section Lowering

theorem Executed.rank_drives (h : Executed source project types limit alerts u)
    (hends : ∀ t ∈ types, source.Terminates project t)
    (hv : Relation.ReflTransGen (Drives source) u v) :
    v = u ∨ v.scan.rank source < u.scan.rank source := by
  induction hv with
  | refl => exact .inl rfl
  | @tail v w hv hw ih =>
    obtain ⟨m, _, hm, hfrom, rfl⟩ := hw
    have hexecuted := h.drives hv
    rcases rank_take hexecuted.sound hexecuted.sourced hends hm hfrom with hsame | hless
    · rwa [hsame]
    · exact .inr (ih.elim (fun he => he ▸ hless) hless.trans)

theorem Executed.goes (h : Executed source project types limit alerts u)
    (hends : ∀ t ∈ types, source.Terminates project t) (hgoes : Goes source u.scan s) :
    s = u.scan ∨ s.rank source < u.scan.rank source := by
  obtain ⟨v, hv, rfl⟩ := hgoes u rfl
  exact (h.rank_drives hends hv).imp_left (congrArg Survey.scan)

/-- Steps of which the first changes something lower the rank. -/
theorem Executed.lowers (h : Executed source project types limit alerts u)
    (hends : ∀ t ∈ types, source.Terminates project t) (m : Move) (hm : m ≠ .cancel)
    (hallows : u.Allows m) (hfrom : m.IsFrom source u) (hmoves : u.take m ≠ u)
    (hgoes : Goes source (u.take m).scan s) : s.rank source < u.scan.rank source := by
  have hfirst := (rank_take h.sound h.sourced hends hallows hfrom).resolve_left hmoves
  have hstep : Drives source u (u.take m) := ⟨m, hm, hallows, hfrom, rfl⟩
  rcases (h.drives (.single hstep)).goes hends hgoes with hsame | hless
  · rwa [hsame]
  · exact hless.trans hfirst

end Lowering

/-- A scan in its schedule, over a source whose listings end, with its queue in order. -/
structure Underway (source : Source) (project : String) (types : List ResourceType) (limit : Nat)
    (alerts : Alerts) (q : Queued) : Prop where
  ends : ∀ t ∈ types, source.Terminates project t
  executed : ∃ u, Executed source project types limit alerts u ∧ u.scan = q.scan
  line : InLine q

namespace Underway

variable {fuel : Nat} {is : List Nat}

theorem goes (h : Underway source project types limit alerts q) {q' : Queued}
    (hgoes : Goes source q.scan q'.scan) (hline : InLine q') :
    Underway source project types limit alerts q' := by
  obtain ⟨u, hu, hscan⟩ := h.executed
  obtain ⟨v, hv, hscan'⟩ := hgoes u hscan
  exact ⟨h.ends, ⟨v, hu.drives hv, hscan'⟩, hline⟩

theorem takeTurn (h : Underway source project types limit alerts q) (i fuel : Nat) :
    Underway source project types limit alerts (Scan.takeTurn source i fuel q) :=
  h.goes (goes_takeTurn source i fuel q) (h.line.takeTurn source i fuel)

theorem takeTurns (h : Underway source project types limit alerts q) (fuel : Nat) (is : List Nat) :
    Underway source project types limit alerts (Scan.takeTurns source fuel is q) :=
  h.goes (goes_takeTurns source fuel is q) (h.line.takeTurns source fuel is)

theorem runJobs (h : Underway source project types limit alerts q) :
    Underway source project types limit alerts
      { q with scan := q.scan.withPool (q.scan.pool.runJobs []) } :=
  h.goes (goes_runJobs source [] _ q.scan) ⟨h.line.nodup, h.line.reads⟩

theorem rank_takeTurns (h : Underway source project types limit alerts q) (fuel : Nat)
    (is : List Nat) :
    (Scan.takeTurns source fuel is q).scan = q.scan ∨
      (Scan.takeTurns source fuel is q).scan.rank source < q.scan.rank source := by
  obtain ⟨u, hu, hscan⟩ := h.executed
  rw [← hscan]
  exact hu.goes h.ends (hscan ▸ goes_takeTurns source fuel is q)

theorem free_pos (h : Underway source project types limit alerts q)
    (hquiet : q.scan.pool.active = []) : 0 < q.scan.pool.free := by
  obtain ⟨u, hu, hscan⟩ := h.executed
  rw [← hscan] at hquiet ⊢
  exact hu.sound.tallies.pool.free_pos hquiet

/-- Where no supplier has failed but not all have finished, an unfinished one has no other before
it. -/
theorem exists_first (h : Underway source project types limit alerts q)
    (hres : Scan.results? q.scan.suppliers = none) :
    ∃ (i : Nat) (p : Supplier), q.scan.suppliers[i]? = some p ∧ p.result? = none ∧
      (q.queue = [] ∨ q.queue.head? = some i) := by
  cases hq : q.queue with
  | nil =>
    obtain ⟨p, hp, hopen⟩ := Scan.unfinished_of_none hres
    obtain ⟨i, hi⟩ := List.mem_iff_getElem?.mp hp
    exact ⟨i, p, hi, hopen, .inl rfl⟩
  | cons i queue =>
    obtain ⟨t, r, args, todo, hi⟩ := h.line.reads i (hq ▸ List.mem_cons_self)
    exact ⟨i, _, hi, rfl, .inr rfl⟩

/-- A turn while no read runs lowers the rank, unless its supplier has finished or has others before
it. -/
theorem takeTurn_cases (h : Underway source project types limit alerts q)
    (hquiet : q.scan.pool.active = []) (i fuel : Nat) :
    (Scan.takeTurn source i (fuel + 1) q).scan.rank source < q.scan.rank source ∨
      (Scan.takeTurn source i (fuel + 1) q = q ∧
        ∀ p, q.scan.suppliers[i]? = some p → p.result? ≠ none) ∨
      ((Scan.takeTurn source i (fuel + 1) q).scan = q.scan ∧
        q.scan.pool.isFirst q.queue i = false ∧
        ((Scan.takeTurn source i (fuel + 1) q).queue = q.queue ∨
          (Scan.takeTurn source i (fuel + 1) q).queue = q.queue ++ [i])) := by
  obtain ⟨scan, queue⟩ := q
  obtain ⟨u, hu, rfl⟩ := h.executed
  cases hturn : Scan.turn i u.scan with
  | call request cursor =>
    have hreq := Scan.request?_of_turn hturn
    simp only [Scan.takeTurn, hturn]
    exact .inl (hu.lowers h.ends (.answer i _) (by simp) trivial (isFrom_page hreq)
      (answer_moves hreq _) (goes_takeTurn source i fuel ⟨_, queue⟩))
  | submit =>
    obtain ⟨t, r, todo, hi⟩ := Scan.submitting_of_turn hturn
    by_cases hwait : Scan.mustWait i ⟨u.scan, queue⟩ = true
    · refine .inr (.inr ?_)
      simp only [Scan.takeTurn, hturn, hwait, if_true]
      refine ⟨trivial, (Scan.reads_of_mustWait hwait).2, ?_⟩
      split
      · exact .inl rfl
      · exact .inr rfl
    · simp only [Scan.takeTurn, hturn, hwait]
      have hmoves := submit_moves hi (Scan.met_of_not_mustWait hwait hi) (source.ending i u.scan)
      refine .inl (hu.lowers h.ends (.submit i .scope _ _) (by simp) Pool.free_of_isFirst
        (isFrom_ending source i .scope _ u) hmoves ?_)
      rw [take_ending]
      exact goes_takeTurn source i fuel ⟨_, queue.erase i⟩
  | await r =>
    obtain ⟨t, hi⟩ := Scan.waiting_of_turn hturn
    have hplaced : Placed project u i t (.waiting r) := hu.sound.placed i _ hi
    cases hplaced with
    | waiting _ hphase =>
      have hidle : u.scan.pool.hasActive r = false := by
        simp [Pool.hasActive, show u.scan.pool.active = [] from hquiet]
      have hgoes : Goes source (u.scan.await i) _ := goes_wait (q := ⟨u.scan, queue⟩) fuel hturn
      exact .inl (hu.lowers h.ends (.await i) (by simp) trivial trivial
        (await_moves hi hphase hidle) hgoes)
  | _ =>
    refine .inr (.inl ⟨by simp only [Scan.takeTurn, hturn], fun p hp hopen => ?_⟩)
    obtain ⟨t, progress⟩ := p
    cases progress with
    | listing l =>
      obtain ⟨call, hreq⟩ := hu.sound.asks hp
      simp [Scan.turn, hp, hreq] at hturn
    | submitting | waiting => simp [Scan.turn, hp] at hturn
    | finished => cases hopen

/-- While no read runs and no supplier has failed, turns lower the rank if one of them is that of an
unfinished supplier with no other before it. -/
theorem takeTurns_lowers (h : Underway source project types limit alerts q)
    (hquiet : q.scan.pool.active = [])
    (hfailed : ∀ (j : Nat) e, (q.scan.suppliers[j]?).bind Supplier.result? ≠ some (.error e))
    {p : Supplier} (hmem : i ∈ is) (hi : q.scan.suppliers[i]? = some p) (hopen : p.result? = none)
    (hfirst : q.queue = [] ∨ q.queue.head? = some i) (fuel : Nat) :
    (Scan.takeTurns source (fuel + 1) is q).scan.rank source < q.scan.rank source := by
  have hfree := h.free_pos hquiet
  induction is generalizing q with
  | nil => cases hmem
  | cons j is ih =>
    have hturn := h.takeTurn j (fuel + 1)
    have hcases := h.takeTurn_cases hquiet j fuel
    simp only [Scan.takeTurns]
    generalize Scan.takeTurn source j (fuel + 1) q = w at hturn hcases
    obtain hless | ⟨rfl, hdone⟩ | ⟨hsame, hwait, hqueue⟩ := hcases
    · split
      · exact hless
      · rcases hturn.rank_takeTurns (fuel + 1) is with hrest | hrest
        · rwa [hrest]
        · exact hrest.trans hless
    · have hne : i ≠ j := by
        rintro rfl
        exact hdone p hi hopen
      split
      · exact absurd ‹_› (hfailed j _)
      · exact ih h hquiet hfailed (List.mem_of_ne_of_mem hne hmem) hi hfirst hfree
    · have hne : i ≠ j := by
        rintro rfl
        simp [Pool.isFirst_of_head hfree hfirst] at hwait
      -- the queue was not empty, or this supplier would have been the first in it
      have hfirst' : w.queue = [] ∨ w.queue.head? = some i := by
        rcases hfirst with hnil | hhead
        · simp [Pool.isFirst_of_head hfree (.inl hnil)] at hwait
        · rcases hqueue with hq | hq
          · exact .inr (hq ▸ hhead)
          · exact .inr (by simp [hq, hhead])
      obtain ⟨scan, queue⟩ := w
      obtain rfl : scan = q.scan := hsame
      split
      · exact absurd ‹_› (hfailed j _)
      · exact ih hturn hquiet hfailed (List.mem_of_ne_of_mem hne hmem) hi hfirst' hfree

theorem round_lowers (h : Underway source project types limit alerts q)
    {w : Queued}
    (hw : w = Scan.takeTurns source (fuel + 1) (List.range q.scan.suppliers.length) q)
    (hres : Scan.results? w.scan.suppliers = none) :
    (w.scan.withPool (w.scan.pool.runJobs [])).rank source < q.scan.rank source := by
  have hturns := h.rank_takeTurns (fuel + 1) (List.range q.scan.suppliers.length)
  have hunder := h.takeTurns (fuel + 1) (List.range q.scan.suppliers.length)
  rw [← hw] at hturns hunder
  by_cases hquiet : w.scan.pool.active = []
  · have hless : w.scan.rank source < q.scan.rank source := by
      refine hturns.elim (fun hsame => ?_) id
      rw [hsame] at hquiet hres
      obtain ⟨i, p, hi, hopen, hfirst⟩ := h.exists_first hres
      have hmem : i ∈ List.range q.scan.suppliers.length :=
        List.mem_range.mpr (List.getElem?_eq_some_iff.mp hi).1
      rw [hw]
      exact h.takeTurns_lowers hquiet (Scan.not_failed_of_none hres) hmem hi hopen hfirst fuel
    exact (Scan.rank_withPool_le (Pool.work_runJobsFor [] _ _)).trans_lt hless
  · obtain ⟨a, ha⟩ := List.exists_mem_of_ne_nil _ hquiet
    obtain ⟨u, hu, hscan⟩ := hunder.executed
    have hhold : a.job.hold = .none := hu.sound.hold_none (hscan ▸ ha)
    have hjobs : (w.scan.withPool (w.scan.pool.runJobs [])).rank source < w.scan.rank source :=
      Scan.rank_withPool_lt (Pool.work_runJobs [] ha hhold)
    exact hturns.elim (fun hsame => hsame ▸ hjobs) hjobs.trans

theorem runRounds_ends (h : Underway source project types limit alerts q)
    (fuel : Nat) {rounds : Nat}
    (hrounds : q.scan.rank source < rounds) :
    ∃ outcome, Scan.results? (Scan.runRounds source (fuel + 1) rounds q).scan.suppliers =
      some outcome := by
  induction rounds generalizing q with
  | zero => exact absurd hrounds (Nat.not_lt_zero _)
  | succ rounds ih =>
    simp only [Scan.runRounds]
    split
    · exact ⟨_, ‹_›⟩
    · rename_i hres
      have hless := h.round_lowers rfl hres
      exact ih (h.takeTurns (fuel + 1) _).runJobs (by dsimp only; omega)

end Underway

/-- A scan over a source whose listings end comes to its end, given the fuel for it: it returns the
results of all its suppliers, or the failure of one. -/
theorem run_ends (limit : Nat) (alerts : Alerts)
    (hends : ∀ t ∈ types, source.Terminates project t) :
    ∃ n, ∀ fuel, n < fuel → ∃ u outcome, Executed source project types limit alerts u ∧
      Scan.results? u.scan.suppliers = some outcome ∧
      Scan.run source fuel (Scan.start project types (Pool.new limit) alerts) =
        Scan.conclude outcome u.scan := by
  have hstart : Underway source project types limit alerts
      ⟨Scan.start project types (Pool.new limit) alerts, []⟩ :=
    ⟨hends, ⟨_, executed_start source project types limit alerts, rfl⟩, ⟨.nil, by simp⟩⟩
  refine ⟨(Scan.start project types (Pool.new limit) alerts).rank source, fun fuel hfuel => ?_⟩
  obtain ⟨fuel, rfl⟩ : ∃ k, fuel = k + 1 := Nat.exists_eq_add_one_of_ne_zero (by omega)
  obtain ⟨outcome, hres⟩ := hstart.runRounds_ends fuel hfuel
  obtain ⟨u, hu, hscan⟩ :=
    executed_rounds source (fuel + 1) (fuel + 1) project types limit alerts
  have hthere : Scan.results? u.scan.suppliers = some outcome := hscan ▸ hres
  refine ⟨u, outcome, hu, hthere, ?_⟩
  rw [run_of_rounds hscan, hthere]
  rfl

end Survey

end CloudInventory
