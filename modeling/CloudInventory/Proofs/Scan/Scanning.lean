import CloudInventory.Proofs.Scan.Scanner
import CloudInventory.Proofs.Scan.Sound

/-! A scan under its scanner. The suppliers take their steps until the scanner returns; a
submission may find the pool uncancelled and go on from there later. Every list of moves is a
schedule: a move that is not there to be made leaves all as it is. -/

namespace CloudInventory

theorem forall₂_modify {α : Type} {R : α → α → Prop} (hrefl : ∀ a, R a a) {f : α → α} {l : List α}
    {k : Nat} (h : ∀ a, l[k]? = some a → R a (f a)) : l.Forall₂ R (l.modify k f) := by
  induction l generalizing k with
  | nil => simp
  | cons a l ih =>
    cases k with
    | zero => exact .cons (h a rfl) (List.forall₂_same.mpr fun b _ => hrefl b)
    | succ k => exact .cons (hrefl a) (ih h)

namespace Survey

variable {u v : Survey}

theorem cancelled_take {m : Move} (hm : m ≠ .cancel) (u : Survey) :
    (u.take m).scan.pool.cancelled = u.scan.pool.cancelled := by
  cases m with
  | answer i page =>
    rcases answer_cases i page u with ⟨_, hsame⟩ | ⟨t, l, call, _, _, _, hlisted⟩
    · rw [hsame]
    · rw [hlisted]
      unfold listed
      split <;> rfl
  | submit i gate free ending =>
    rcases submit_cases i gate free ending u with hsame | ⟨t, r, _, hwaits⟩ |
      ⟨t, r, args, todo, _, hmet⟩
    · rw [hsame]
    · rw [hwaits]
      rfl
    · rw [hmet]
      cases u.scan.pool.lookFrom gate r free <;> rfl
  | await i =>
    rcases await_cases i u with hsame | ⟨t, r, hi, _⟩
    · rw [hsame]
    · rw [pool_await hi, Pool.cancelled_await]
  | advance k => exact Pool.cancelled_advance k u.scan.pool
  | cancel => exact absurd rfl hm

/-- A step is about one supplier at most, and that has not finished. -/
theorem change_suppliers (h : Change u v) : v.scan.suppliers = u.scan.suppliers ∨
    ∃ i t old new, u.scan.suppliers[i]? = some ⟨t, old⟩ ∧ (∀ result, old ≠ .finished result) ∧
      v.scan.suppliers = u.scan.suppliers.modify i fun p => { p with progress := new } := by
  cases h with
  | idle | awaits | advances | cancels => exact .inl rfl
  | hears _ hi | opens _ hi | fails _ hi | waits hi | refused hi | skips hi | begins _ hi
  | gives_up hi | settles hi => exact .inr ⟨_, _, _, _, hi, by simp, rfl⟩

theorem forall₂_suppliers (h : Change u v) : u.scan.suppliers.Forall₂ (fun p q =>
    p.type = q.type ∧ ∀ result, p.result? = some result → q.result? = some result)
    v.scan.suppliers := by
  rcases change_suppliers h with hsame | ⟨i, t, old, new, hi, hopen, hnew⟩
  · rw [hsame]
    exact List.forall₂_same.mpr fun p _ => ⟨rfl, fun _ => id⟩
  · rw [hnew]
    refine forall₂_modify (fun p => ⟨rfl, fun _ => id⟩) fun p hp => ⟨rfl, fun result hr => ?_⟩
    obtain rfl : ⟨t, old⟩ = p := Option.some.inj (hi.symm.trans hp)
    cases old with
    | finished r => exact absurd rfl (hopen r)
    | listing | submitting | waiting => simp [Supplier.result?] at hr

end Survey

structure Scanning where
  survey : Survey
  /-- The suppliers with a submission that is past its look at the pool's cancellation. -/
  passed : List Nat
  returned : Option (Except Error (List Resource))

namespace Scanning

inductive Move where
  | answer (i : Nat) (page : Except Error (Page Json))
  | pass (i : Nat)
  /-- A submission goes on from `gate` if it has passed, and starts with its first look if not. -/
  | submit (i : Nat) (gate : Gate) (free : Bool) (ending : Ending State)
  | await (i : Nat)
  | advance (k : Nat)
  | cancel
  | look
  | join

def start (project : String) (types : List ResourceType) (limit : Nat) (alerts : Alerts) :
    Scanning := ⟨Survey.start project types limit alerts, [], none⟩

def scan (u : Scanning) : Scan := u.survey.scan

def log (u : Scanning) : Scan.Log := u.survey.log

def scanner (u : Scanning) : Scanner := ⟨u.scan, u.returned⟩

def result? (i : Nat) (u : Scanning) : Option (Except Error (List Resource)) :=
  (u.scan.suppliers[i]?).bind Supplier.result?

/-- Whether a supplier has a read to submit. -/
def submits (i : Nat) (u : Scanning) : Bool :=
  match u.scan.suppliers[i]? with
  | some ⟨_, .submitting _ (_ :: _)⟩ => true
  | _ => false

def mayPass (i : Nat) (u : Scanning) : Bool :=
  u.returned.isNone && !u.scan.pool.cancelled && u.submits i && !u.passed.contains i

/-- Where a submission goes on. -/
def entry (i : Nat) (gate : Gate) (u : Scanning) : Gate :=
  if u.passed.contains i then gate else .scope

def onward (m : Survey.Move) (u : Scanning) : Scanning := { u with survey := u.survey.take m }

/-- A step of a supplier, none of which comes after the scanner's return. -/
def supply (m : Survey.Move) (u : Scanning) : Scanning :=
  match u.returned with
  | none => u.onward m
  | some _ => u

def withScanner (s : Scanner) (u : Scanning) : Scanning :=
  { u with survey := ⟨s.scan, u.log⟩, returned := s.returned }

def take : Move → Scanning → Scanning
  | .answer i page, u => u.supply (.answer i page)
  | .pass i, u => if u.mayPass i then { u with passed := i :: u.passed } else u
  | .submit i gate free ending, u =>
    { u.supply (.submit i (u.entry i gate) (free && decide (0 < u.scan.pool.free)) ending) with
      passed := u.passed.filter (· ≠ i) }
  | .await i, u => u.supply (.await i)
  | .advance k, u => u.onward (.advance k)
  | .cancel, u => u.onward .cancel
  | .look, u => u.withScanner u.scanner.look
  | .join, u => u.withScanner u.scanner.join

def run (ms : List Move) (u : Scanning) : Scanning := ms.foldl (fun u m => u.take m) u

@[simp] theorem run_nil (u : Scanning) : u.run [] = u := rfl

@[simp] theorem run_cons (m : Move) (ms : List Move) (u : Scanning) :
    u.run (m :: ms) = (u.take m).run ms := rfl

theorem run_append (ms ms' : List Move) (u : Scanning) : u.run (ms ++ ms') = (u.run ms).run ms' :=
  List.foldl_append

variable {project : String} {types : List ResourceType} {limit : Nat} {alerts : Alerts}
  {u : Scanning}

theorem result?_eq_some {i : Nat} {result : Except Error (List Resource)} :
    u.result? i = some result ↔ ∃ t, u.scan.suppliers[i]? = some ⟨t, .finished result⟩ := by
  constructor
  · intro h
    obtain ⟨p, hp, hr⟩ := Option.bind_eq_some_iff.mp h
    exact ⟨p.type, hp.trans (congrArg some (Supplier.eq_of_result? hr))⟩
  · rintro ⟨t, ht⟩
    simp [result?, ht, Supplier.result?]

theorem supply_of_none (hr : u.returned = none) (m : Survey.Move) : u.supply m = u.onward m := by
  simp [supply, hr]

theorem supply_of_some (hr : u.returned ≠ none) (m : Survey.Move) : u.supply m = u := by
  cases h : u.returned with
  | none => exact absurd h hr
  | some outcome => simp [supply, h]

theorem allows_submit (i : Nat) (gate : Gate) (free : Bool) (ending : Ending State) (s : Survey) :
    s.Allows (.submit i gate (free && decide (0 < s.scan.pool.free)) ending) := by
  intro hf
  simpa using (Bool.and_eq_true_iff.mp hf).2

/-- What a scanner's step makes of the scan: nothing, or a cancellation where it fails. -/
theorem withScanner_survey {s : Scanner} (hs : s = u.scanner.look ∨ s = u.scanner.join) :
    (u.withScanner s).survey = u.survey ∨ (u.withScanner s).survey = u.survey.take .cancel := by
  have hsame : (u.withScanner u.scanner).survey = u.survey := rfl
  have hfinish : ∀ outcome, (u.withScanner (u.scanner.finish outcome)).survey = u.survey ∨
      (u.withScanner (u.scanner.finish outcome)).survey = u.survey.take .cancel := by
    intro outcome
    cases outcome with
    | ok results => exact .inl rfl
    | error e => exact .inr rfl
  rcases hs with rfl | rfl
  · unfold Scanner.look
    split
    · split
      · exact hfinish _
      · exact .inl hsame
    · exact .inl hsame
  · unfold Scanner.join
    split
    · split
      · exact hfinish _
      · exact .inl hsame
    · exact .inl hsame

theorem withScanner_rests {s : Scanner} (hs : s = u.scanner.look ∨ s = u.scanner.join) :
    (u.withScanner s).scan.suppliers = u.scan.suppliers ∧ (u.withScanner s).log = u.log := by
  rcases withScanner_survey hs with hsame | hcancel
  · exact ⟨congrArg (·.scan.suppliers) hsame, rfl⟩
  · exact ⟨congrArg (·.scan.suppliers) hcancel, rfl⟩

theorem take_survey (m : Move) (u : Scanning) :
    (u.take m).survey = u.survey ∨
      ∃ n, u.survey.Allows n ∧ (u.take m).survey = u.survey.take n := by
  have hsupply : ∀ m, u.survey.Allows m → (u.supply m).survey = u.survey ∨
      ∃ n, u.survey.Allows n ∧ (u.supply m).survey = u.survey.take n := by
    intro m hm
    unfold supply
    split
    · exact .inr ⟨m, hm, rfl⟩
    · exact .inl rfl
  have hscanner : ∀ s, s = u.scanner.look ∨ s = u.scanner.join →
      (u.withScanner s).survey = u.survey ∨
        ∃ n, u.survey.Allows n ∧ (u.withScanner s).survey = u.survey.take n := by
    intro s hs
    exact (withScanner_survey hs).imp_right fun hcancel => ⟨.cancel, trivial, hcancel⟩
  cases m with
  | answer i page => exact hsupply (.answer i page) trivial
  | pass i =>
    refine .inl ?_
    simp only [take]
    split <;> rfl
  | submit i gate free ending =>
    exact hsupply (.submit i (u.entry i gate) (free && decide (0 < u.scan.pool.free)) ending)
      (allows_submit i _ free ending u.survey)
  | await i => exact hsupply (.await i) trivial
  | advance k => exact .inr ⟨.advance k, trivial, rfl⟩
  | cancel => exact .inr ⟨.cancel, trivial, rfl⟩
  | look => exact hscanner _ (.inl rfl)
  | join => exact hscanner _ (.inr rfl)

section Rests

/-- What neither the reads nor the cancellation touch, nor any move after the scanner's return. -/
structure Rests (u v : Scanning) : Prop where
  suppliers : v.scan.suppliers = u.scan.suppliers
  project : v.scan.project = u.scan.project
  alerts : v.scan.alerts = u.scan.alerts
  opened : v.log.opened = u.log.opened
  begun : v.log.begun = u.log.begun
  sent : v.log.sent = u.log.sent
  returned : v.returned = u.returned

theorem Rests.refl (u : Scanning) : Rests u u := ⟨rfl, rfl, rfl, rfl, rfl, rfl, rfl⟩

theorem rests_advance (k : Nat) (u : Scanning) : Rests u (u.take (.advance k)) :=
  ⟨rfl, rfl, rfl, rfl, rfl, rfl, rfl⟩

theorem rests_cancel (u : Scanning) : Rests u (u.take .cancel) :=
  ⟨rfl, rfl, rfl, rfl, rfl, rfl, rfl⟩

theorem rests_pass (i : Nat) (u : Scanning) : Rests u (u.take (.pass i)) := by
  simp only [take]
  split <;> exact ⟨rfl, rfl, rfl, rfl, rfl, rfl, rfl⟩

theorem rests_of_returned (hr : u.returned ≠ none) (m : Move) : Rests u (u.take m) := by
  have hlook : u.scanner.look = u.scanner := Scanner.look_of_returned hr
  have hjoin : u.scanner.join = u.scanner := Scanner.join_of_returned hr
  cases m with
  | answer | await =>
    simp only [take, supply_of_some hr]
    exact .refl u
  | submit =>
    simp only [take, supply_of_some hr]
    exact ⟨rfl, rfl, rfl, rfl, rfl, rfl, rfl⟩
  | pass i => exact rests_pass i u
  | advance k => exact rests_advance k u
  | cancel => exact rests_cancel u
  | look =>
    simp only [take, hlook]
    exact ⟨rfl, rfl, rfl, rfl, rfl, rfl, rfl⟩
  | join =>
    simp only [take, hjoin]
    exact ⟨rfl, rfl, rfl, rfl, rfl, rfl, rfl⟩

end Rests

theorem survey_reached (h : Survey.Reached project types limit alerts u.survey) (ms : List Move) :
    Survey.Reached project types limit alerts (u.run ms).survey := by
  induction ms generalizing u with
  | nil => exact h
  | cons m ms ih =>
    refine ih ?_
    rcases take_survey m u with hsame | ⟨n, hn, htake⟩
    · rwa [hsame]
    · rw [htake]
      exact Relation.ReflTransGen.tail h ⟨n, hn, rfl⟩

theorem run_survey (project : String) (types : List ResourceType) (limit : Nat) (alerts : Alerts)
    (ms : List Move) :
    Survey.Reached project types limit alerts
      ((start project types limit alerts).run ms).survey :=
  survey_reached (u := start project types limit alerts) Relation.ReflTransGen.refl ms

section Refinement

theorem works_take {s : Survey} {m : Survey.Move} (hm : s.Allows m) (hc : m ≠ .cancel) :
    Scanner.Works s.scan (s.take m).scan :=
  ⟨Survey.cancelled_take hc s, Survey.forall₂_suppliers (Survey.change_take hm)⟩

theorem scanner_supply {m : Survey.Move} (hm : u.survey.Allows m) (hc : m ≠ .cancel) :
    Relation.ReflTransGen Scanner.Step u.scanner (u.supply m).scanner := by
  by_cases hr : u.returned = none
  · rw [supply_of_none hr]
    exact .single (.works hr (works_take hm hc))
  · rw [supply_of_some hr]

/-- Without a cancellation from outside, a scan is a run of its scanner. -/
theorem scanner_take {m : Move} (hm : m ≠ .cancel) (u : Scanning) :
    Relation.ReflTransGen Scanner.Step u.scanner (u.take m).scanner := by
  cases m with
  | answer i page => exact scanner_supply (m := .answer i page) trivial (by simp)
  | pass i =>
    simp only [take]
    split <;> exact .refl
  | submit i gate free ending =>
    exact scanner_supply (allows_submit i (u.entry i gate) free ending u.survey) (by simp)
  | await i => exact scanner_supply (m := .await i) trivial (by simp)
  | advance k =>
    by_cases hr : u.returned = none
    · have hworks : Scanner.Works u.scan (u.survey.take (.advance k)).scan :=
        works_take (m := .advance k) trivial (by simp)
      exact .single (.works hr hworks)
    · exact .single (.reads hr rfl (Survey.cancelled_take (m := .advance k) (by simp) u.survey))
  | cancel => exact absurd rfl hm
  | look => exact .single (.look _)
  | join => exact .single (.join _)

theorem scanner_run {ms : List Move} (hms : .cancel ∉ ms) (u : Scanning) :
    Relation.ReflTransGen Scanner.Step u.scanner (u.run ms).scanner := by
  induction ms generalizing u with
  | nil => exact .refl
  | cons m ms ih =>
    simp only [List.mem_cons, not_or] at hms
    obtain ⟨hm, hms⟩ := hms
    exact (scanner_take (Ne.symm hm) u).trans (ih hms (u.take m))

end Refinement

end Scanning

end CloudInventory
