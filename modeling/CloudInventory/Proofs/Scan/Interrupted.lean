import CloudInventory.Proofs.Scan.Scanning
import CloudInventory.Proofs.Scan.Twins

/-! A scan after its pool is cancelled. Reads are begun only for submissions that had passed their
look at the cancellation before it came, and a supplier that was still under way ends with the
cancellation, unless its listing fails. -/

namespace CloudInventory

namespace Survey

variable {project : String} {types : List ResourceType} {limit : Nat} {alerts : Alerts}
  {u v : Survey} {i j : Nat} {t : ResourceType}

/-- The supplier has not ended, or has ended with the cancellation or with its listing. -/
def Cut (i : Nat) (u : Survey) : Prop :=
  ∀ t result, u.scan.suppliers[i]? = some ⟨t, .finished result⟩ →
    result = .error .cancelled ∨ i ∉ u.log.opened

namespace Cut

theorem of_open {progress : Progress} (hi : u.scan.suppliers[i]? = some ⟨t, progress⟩)
    (hopen : ∀ result, progress ≠ .finished result) : u.Cut i := by
  intro t' result ht
  rw [hi, Option.some.injEq, Supplier.mk.injEq] at ht
  exact absurd ht.2 (hopen result)

theorem of_gone (hgone : u.gone i = true) : u.Cut i := by
  intro t' result ht
  obtain ⟨t, hi⟩ := gone_iff.mp hgone
  rw [hi, Option.some.injEq, Supplier.mk.injEq, Progress.finished.injEq] at ht
  exact .inl ht.2.symm

theorem of_same (h : u.Cut i) (hs : v.scan.suppliers = u.scan.suppliers)
    (ho : v.log.opened = u.log.opened) : v.Cut i := by
  intro t result ht
  rw [ho]
  exact h t result (hs ▸ ht)

theorem other (h : u.Cut j) (hv : About i u v) (hij : j ≠ i) : v.Cut j := by
  intro t result ht
  rw [hv.others j hij] at ht
  exact (h t result ht).imp_right (mt (hv.opened j hij).mp)

theorem answer (h : u.Cut i) (hs : Sound project types limit alerts u)
    (page : Except Error (Page Json)) : (u.take (.answer i page)).Cut i := by
  rcases answer_cases i page u with ⟨_, hsame⟩ | ⟨t, l, call, hi, _, _, hlisted⟩
  · rwa [hsame]
  · rw [hlisted]
    cases l.feed t page with
    | first | below => exact .of_open (supplier_setProgress rfl hi _) (by simp)
    | done outcome =>
      cases outcome with
      | ok args => exact .of_open (supplier_setProgress rfl hi _) (by simp)
      | error f =>
        have hplaced : Placed project u i t (.listing l) := hs.placed i _ hi
        cases hplaced with
        | listing _ _ hopen => exact fun _ _ _ => .inr hopen

theorem submit (h : u.Cut i) (gate : Gate) (free : Bool) (ending : Ending State) :
    (u.take (.submit i gate free ending)).Cut i := by
  rcases submit_cases i gate free ending u with hsame | ⟨t, r, hi, hwaits⟩ |
    ⟨t, r, args, todo, hi, hmet⟩
  · rwa [hsame]
  · rw [hwaits]
    exact .of_open (supplier_setProgress rfl hi _) (by simp)
  · rw [hmet]
    cases u.scan.pool.lookFrom gate r free with
    | refused => exact .of_gone (gone_iff.mpr ⟨t, supplier_setProgress rfl hi _⟩)
    | skipped | accepted => exact .of_open (supplier_setProgress rfl hi _) (by simp)
    | pending => exact h

theorem await (h : u.Cut i) (hs : Sound project types limit alerts u)
    (hc : u.scan.pool.cancelled = true) : (u.take (.await i)).Cut i := by
  rcases await_cases i u with hsame | ⟨t, r, hi, _⟩
  · rwa [hsame]
  · exact .of_gone (hs.gone_await hc hi)

theorem take (h : u.Cut j) (hs : Sound project types limit alerts u)
    (hc : u.scan.pool.cancelled = true) (m : Move) : (u.take m).Cut j := by
  cases m with
  | answer i page =>
    by_cases hij : j = i
    · subst hij
      exact h.answer hs page
    · exact h.other (about_answer i page u) hij
  | submit i gate free ending =>
    by_cases hij : j = i
    · subst hij
      exact h.submit gate free ending
    · exact h.other (about_submit i gate free ending u) hij
  | await i =>
    by_cases hij : j = i
    · subst hij
      exact h.await hs hc
    · exact h.other (about_await i u) hij
  | advance | cancel => exact h.of_same rfl rfl

end Cut

section Closing

/-- The supplier has ended with the cancellation, waits, or, where `submits`, has reads left. -/
def Closing (submits : Prop) (i : Nat) (u : Survey) : Prop :=
  u.gone i = true ∨ (∃ t r, u.scan.suppliers[i]? = some ⟨t, .waiting r⟩) ∨
    submits ∧ ∃ t r todo, u.scan.suppliers[i]? = some ⟨t, .submitting r todo⟩

theorem Closing.submit {submits : Prop} (h : u.Closing submits i)
    (hc : u.scan.pool.cancelled = true) (gate : Gate) (free : Bool) (ending : Ending State) :
    (u.take (.submit i gate free ending)).Closing (gate ≠ .scope) i := by
  rcases h with hgone | ⟨t, r, hi⟩ | ⟨_, t, r, todo, hi⟩
  · obtain ⟨t, hi⟩ := gone_iff.mp hgone
    rw [take_submit_of_ne hi (by simp)]
    exact .inl hgone
  · rw [take_submit_of_ne hi (by simp)]
    exact .inr (.inl ⟨t, r, hi⟩)
  · cases todo with
    | nil =>
      rw [take_submit_nil hi]
      exact .inr (.inl ⟨t, r, supplier_setProgress rfl hi _⟩)
    | cons args todo =>
      rw [take_submit hi]
      by_cases hl : u.scan.pool.lookFrom gate r free = .refused
      · rw [hl]
        exact .inl (gone_iff.mpr ⟨t, supplier_setProgress rfl hi _⟩)
      · obtain ⟨⟨rest, hi'⟩, _⟩ := met_open ending hi hl
        have hgate : gate ≠ .scope := fun hg => hl (Pool.lookFrom_eq_refused.mpr ⟨hg, hc⟩)
        exact .inr (.inr ⟨hgate, t, r, rest, hi'⟩)

theorem Closing.await (h : u.Closing False i) (hs : Sound project types limit alerts u)
    (hc : u.scan.pool.cancelled = true) : (u.take (.await i)).gone i = true := by
  rcases h with hgone | ⟨t, r, hi⟩ | ⟨hfalse, _⟩
  · obtain ⟨t, hi⟩ := gone_iff.mp hgone
    rwa [take_await_of_ne hi (by simp)]
  · exact hs.gone_await hc hi
  · exact hfalse.elim

end Closing

end Survey

namespace Scanning

variable {project : String} {types : List ResourceType} {limit : Nat} {alerts : Alerts}
  {u v w : Scanning} {i : Nat}

/-- A scan that is `w` when its pool is cancelled and `u` some time later. -/
structure Halted (w u : Scanning) : Prop where
  cancelled : u.scan.pool.cancelled = true
  begun : ∃ late : List Read, u.log.begun = w.log.begun ++ late ∧
    (late.map (·.supplier) ++ u.passed).Subperm w.passed
  cut : ∀ i, w.result? i = none → u.survey.Cut i

theorem cons_filter_subperm {l : List Nat} (h : i ∈ l) : (i :: l.filter (· ≠ i)).Subperm l := by
  refine List.subperm_ext_iff.mpr fun a _ => ?_
  by_cases ha : a = i
  · subst ha
    have hnone : (l.filter (· ≠ a)).count a = 0 := List.count_eq_zero.mpr (by simp)
    rw [List.count_cons_self, hnone]
    exact List.one_le_count_iff.mpr h
  · have hkept : (l.filter (· ≠ i)).count a = l.count a := List.count_filter (by simpa using ha)
    exact Nat.le_of_eq ((List.count_cons_of_ne (Ne.symm ha)).trans hkept)

theorem cancelled_take (hc : u.scan.pool.cancelled = true) (m : Move) :
    (u.take m).scan.pool.cancelled = true := by
  rcases take_survey m u with hsame | ⟨n, _, htake⟩
  · exact (congrArg (·.scan.pool.cancelled) hsame).trans hc
  · refine (congrArg (·.scan.pool.cancelled) htake).trans ?_
    by_cases hn : n = .cancel
    · rw [hn]
      rfl
    · exact (Survey.cancelled_take hn u.survey).trans hc

theorem passed_supply (m : Survey.Move) (u : Scanning) : (u.supply m).passed = u.passed := by
  unfold supply
  split <;> rfl

/-- No submission passes its look at the cancellation any more. -/
theorem passed_take (hc : u.scan.pool.cancelled = true) (m : Move) :
    (u.take m).passed.Sublist u.passed := by
  cases m with
  | answer | await => exact (passed_supply _ u).symm ▸ List.Sublist.refl _
  | pass i =>
    have hnot : u.mayPass i = false := by simp [mayPass, hc]
    simp [take, hnot]
  | submit i gate free ending => exact List.filter_sublist
  | advance | cancel | look | join => exact List.Sublist.refl _

theorem mem_passed_of_begins {gate : Gate} {i : Nat} (hc : u.scan.pool.cancelled = true)
    (h : ¬(u.entry i gate = .scope ∧ u.scan.pool.cancelled = true)) : i ∈ u.passed := by
  by_contra hnot
  exact h ⟨by simp [entry, hnot], hc⟩

section Closing

variable {gate : Gate} {free : Bool} {ending : Ending State}

theorem submit_survey (hr : u.returned = none) (i : Nat) (gate : Gate) (free : Bool)
    (ending : Ending State) :
    (u.take (.submit i gate free ending)).survey = u.survey.take
      (.submit i (u.entry i gate) (free && decide (0 < u.scan.pool.free)) ending) := by
  simp only [take, supply_of_none hr, onward]

theorem submit_returned (hr : u.returned = none) (i : Nat) (gate : Gate) (free : Bool)
    (ending : Ending State) :
    (u.take (.submit i gate free ending)).returned = none := by
  simp only [take, supply_of_none hr, onward, hr]

/-- Two submissions and a wait at most, and the supplier has ended with the cancellation. -/
theorem gone_of_closing (hu : Survey.Reached project types limit alerts u.survey)
    (hc : u.scan.pool.cancelled = true) (hr : u.returned = none) {submits : Prop}
    (h : u.survey.Closing submits i) (gate gate' : Gate) (free free' : Bool)
    (ending ending' : Ending State) :
    (u.run [.submit i gate free ending, .submit i gate' free' ending', .await i]).survey.gone i =
      true := by
  have hfirst := h.submit hc (u.entry i gate) (free && decide (0 < u.scan.pool.free)) ending
  rw [← submit_survey hr] at hfirst
  have hr₁ := submit_returned hr i gate free ending
  have hc₁ := cancelled_take hc (.submit i gate free ending)
  generalize hv : u.take (.submit i gate free ending) = v at hfirst hr₁ hc₁
  -- whatever the first submission met, the next one begins with a look at the cancellation
  have hentry : v.entry i gate' = .scope := by simp [← hv, entry, take]
  have hsecond := hfirst.submit hc₁ (v.entry i gate') (free' && decide (0 < v.scan.pool.free))
    ending'
  rw [← submit_survey hr₁, hentry] at hsecond
  have hr₂ := submit_returned hr₁ i gate' free' ending'
  have hc₂ := cancelled_take hc₁ (.submit i gate' free' ending')
  have hreached := survey_reached hu [.submit i gate free ending, .submit i gate' free' ending']
  simp only [run_cons, run_nil, hv] at hreached ⊢
  have hlast : (v.take (.submit i gate' free' ending')).survey.Closing False i := by
    simpa using hsecond
  have hgone := hlast.await hreached.sound hc₂
  rwa [show ∀ x : Scanning, x.take (.await i) = x.supply (.await i) from fun _ => rfl,
    supply_of_none hr₂]

end Closing

namespace Halted

theorem of_same (h : Halted w u) (hb : v.log.begun = u.log.begun)
    (hcut : ∀ i, u.survey.Cut i → v.survey.Cut i) (hc : v.scan.pool.cancelled = true)
    (hp : v.passed.Sublist u.passed) : Halted w v where
  cancelled := hc
  begun := by
    obtain ⟨late, hlate, hsub⟩ := h.begun
    exact ⟨late, hb.trans hlate, ((List.subperm_append_left _).mpr hp.subperm).trans hsub⟩
  cut i hi := hcut i (h.cut i hi)

theorem submit (h : Halted w u) (hs : Survey.Sound project types limit alerts u.survey)
    (hr : u.returned = none) (i : Nat) (gate : Gate) (free : Bool) (ending : Ending State) :
    Halted w (u.take (.submit i gate free ending)) := by
  have hsurvey := submit_survey hr i gate free ending
  have hc := cancelled_take h.cancelled (.submit i gate free ending)
  have hcut : ∀ j, u.survey.Cut j → (u.take (.submit i gate free ending)).survey.Cut j := by
    intro j hj
    rw [hsurvey]
    exact hj.take hs h.cancelled _
  have hlog : (u.take (.submit i gate free ending)).log.begun = _ :=
    congrArg (·.log.begun) hsurvey
  rcases Survey.begun_submit i (u.entry i gate) (free && decide (0 < u.scan.pool.free)) ending
    u.survey with hsame | ⟨hentry, b, rfl, _, _, hbegun⟩
  · exact h.of_same (hlog.trans hsame) hcut hc (passed_take h.cancelled _)
  · obtain ⟨late, hlate, hsub⟩ := h.begun
    have hmem := mem_passed_of_begins h.cancelled hentry
    have hnew : (u.take (.submit b.supplier gate free ending)).log.begun =
        w.log.begun ++ (late ++ [b]) := by
      rw [hlog, hbegun, show u.survey.log.begun = u.log.begun from rfl, hlate, List.append_assoc]
    refine ⟨hc, ⟨late ++ [b], hnew, ?_⟩, fun j hj => hcut j (h.cut j hj)⟩
    -- the submission has used up its place among those that had passed
    have hone := (List.subperm_append_left (late.map (·.supplier))).mpr (cons_filter_subperm hmem)
    simpa [take, List.append_assoc] using hone.trans hsub

theorem take (h : Halted w u) (hs : Survey.Sound project types limit alerts u.survey) (m : Move) :
    Halted w (u.take m) := by
  have hc := cancelled_take h.cancelled m
  have hp := passed_take h.cancelled m
  by_cases hr : u.returned = none
  · have hsupply : ∀ n, u.take m = u.onward n → (u.survey.take n).log.begun = u.log.begun →
        Halted w (u.take m) := by
      intro n hn hb
      refine h.of_same (by rw [hn]; exact hb) (fun i hi => ?_) hc hp
      rw [hn]
      exact hi.take hs h.cancelled n
    have hscanner : ∀ s, s = u.scanner.look ∨ s = u.scanner.join → u.take m = u.withScanner s →
        Halted w (u.take m) := by
      intro s hs hm
      obtain ⟨hsame, hlog⟩ := withScanner_rests hs
      refine h.of_same (by rw [hm, hlog]) (fun i hi => ?_) hc hp
      rw [hm]
      exact hi.of_same hsame (congrArg (·.opened) hlog)
    cases m with
    | answer i page =>
      exact hsupply _ (supply_of_none hr _) (Survey.begun_take (by simp) u.survey)
    | await i => exact hsupply _ (supply_of_none hr _) (Survey.begun_take (by simp) u.survey)
    | submit i gate free ending => exact h.submit hs hr i gate free ending
    | pass i =>
      have hrest := rests_pass i u
      exact h.of_same hrest.begun (fun j hj => hj.of_same hrest.suppliers hrest.opened) hc hp
    | advance | cancel => exact hsupply _ rfl rfl
    | look => exact hscanner _ (.inl rfl) rfl
    | join => exact hscanner _ (.inr rfl) rfl
  · have hrest := rests_of_returned hr m
    exact h.of_same hrest.begun (fun i hi => hi.of_same hrest.suppliers hrest.opened) hc hp

theorem run (h : Halted w u) (hu : Survey.Reached project types limit alerts u.survey)
    (ms : List Move) : Halted w (u.run ms) := by
  induction ms generalizing u with
  | nil => exact h
  | cons m ms ih => exact ih (h.take hu.sound m) (survey_reached hu [m])

end Halted

/-- The moment of the cancellation. -/
theorem halted_cancel (w : Scanning) : Halted w (w.take .cancel) where
  cancelled := rfl
  begun := ⟨[], (List.append_nil _).symm, List.Subperm.refl _⟩
  cut i hi := by
    intro t result ht
    have hfinished : w.result? i = some result := result?_eq_some.mpr ⟨t, ht⟩
    rw [hi] at hfinished
    cases hfinished

end Scanning

end CloudInventory
