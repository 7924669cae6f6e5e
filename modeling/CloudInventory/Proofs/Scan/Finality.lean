import CloudInventory.Proofs.Pool.Phase
import CloudInventory.Proofs.Scan.Consistency

/-! A failed scan is final. It fails with the cancellation or with the error of one of its
suppliers, and leaves its pool cancelled; nothing is listed or read for it any more, and no later
scan over the pool gets any further than its first look. -/

namespace CloudInventory

namespace Pool

variable {α : Type} {p : Pool α}

def acts (as : List (Act α)) (p : Pool α) : Pool α := as.foldl (fun p a => p.act a) p

theorem cancelled_acts (as : List (Act α)) (h : p.cancelled = true) :
    (p.acts as).cancelled = true := by
  induction as generalizing p with
  | nil => exact h
  | cons a as ih => exact ih (cancelled_act a h)

end Pool

namespace Scanner

variable {s : Scan} {u v w : Scanner}

/-- What may come to a scanner: its own steps, those of its suppliers and of the reads, and a
cancellation from outside. -/
inductive Event : Scanner → Scanner → Prop
  | step {v w : Scanner} : Step v w → Event v w
  | cancel (v : Scanner) : Event v { v with scan := v.scan.cancel }

def Comes (v w : Scanner) : Prop := Relation.ReflTransGen Event v w

theorem comes_of_steps (h : Relation.ReflTransGen Step v w) : Comes v w := by
  induction h with
  | refl => exact .refl
  | tail _ hstep ih => exact ih.tail (.step hstep)

/-- A scanner that has failed has done so with an error that is there, and its pool is cancelled. -/
def Accountable (w : Scanner) : Prop :=
  ∀ e, w.returned = some (.error e) →
    (e = .cancelled ∨ ∃ p ∈ w.scan.suppliers, p.result? = some (.error e)) ∧
      w.scan.pool.cancelled = true

/-- Its suppliers are left as they are, and so is what it has returned. -/
structure Final (v w : Scanner) : Prop where
  returned : w.returned = v.returned
  suppliers : w.scan.suppliers = v.scan.suppliers
  cancelled : v.scan.pool.cancelled = true → w.scan.pool.cancelled = true

theorem look_cases (w : Scanner) : w.look = w ∨
    w.returned = none ∧ w.scan.pool.cancelled = true ∧ w.look = w.finish (.error .cancelled) := by
  cases hr : w.returned with
  | some outcome => exact .inl (look_of_returned (by simp [hr]))
  | none =>
    cases hc : w.scan.pool.cancelled with
    | false => exact .inl (by simp [look, hr, hc])
    | true => exact .inr ⟨rfl, rfl, by simp [look, hr, hc]⟩

theorem join_cases (w : Scanner) : w.join = w ∨
    ∃ outcome, w.returned = none ∧ Scan.results? w.scan.suppliers = some outcome ∧
      w.join = w.finish outcome := by
  cases hr : w.returned with
  | some outcome => exact .inl (join_of_returned (by simp [hr]))
  | none =>
    cases hres : Scan.results? w.scan.suppliers with
    | none => exact .inl (join_of_none hr hres)
    | some outcome => exact .inr ⟨outcome, rfl, rfl, join_of_some hr hres⟩

theorem accountable_finish {outcome : Except Error (List (List Resource))}
    (h : ∀ e, outcome = .error e →
      e = .cancelled ∨ ∃ p ∈ w.scan.suppliers, p.result? = some (.error e)) :
    Accountable (w.finish outcome) := by
  intro e he
  cases outcome with
  | ok results => cases he
  | error d =>
    obtain rfl : d = e := by simpa [finish, Scan.conclude] using he
    exact ⟨h d rfl, rfl⟩

theorem Accountable.event (h : Accountable v) (hvw : Event v w) : Accountable w := by
  cases hvw with
  | cancel => exact fun e he => ⟨(h e he).1, rfl⟩
  | step hstep =>
    cases hstep with
    | works hr =>
      intro e he
      rw [hr] at he
      cases he
    | reads hr hsame hc =>
      intro e he
      obtain ⟨hsource, hcancelled⟩ := h e he
      exact ⟨by simpa only [hsame] using hsource, hc.trans hcancelled⟩
    | look =>
      rcases look_cases v with hsame | ⟨_, _, hlook⟩
      · rwa [hsame]
      · rw [hlook]
        exact accountable_finish fun e he => .inl (Except.error.inj he).symm
    | join =>
      rcases join_cases v with hsame | ⟨outcome, _, hres, hjoin⟩
      · rwa [hsame]
      · rw [hjoin]
        refine accountable_finish fun e he => .inr ?_
        rw [he] at hres
        exact Scan.results?_error hres

theorem Comes.accountable (h : Comes v w) (hv : Accountable v) : Accountable w := by
  induction h with
  | refl => exact hv
  | tail _ hevent ih => exact ih.event hevent

theorem Event.final (h : Event v w) (hr : v.returned ≠ none) : Final v w := by
  cases h with
  | cancel => exact ⟨rfl, rfl, fun _ => rfl⟩
  | step hstep =>
    cases hstep with
    | works hnone => exact absurd hnone hr
    | reads _ hsame hc => exact ⟨rfl, hsame, hc.trans⟩
    | look =>
      rw [look_of_returned hr]
      exact ⟨rfl, rfl, id⟩
    | join =>
      rw [join_of_returned hr]
      exact ⟨rfl, rfl, id⟩

theorem Comes.final (h : Comes v w) (hr : v.returned ≠ none) : Final v w := by
  induction h with
  | refl => exact ⟨rfl, rfl, id⟩
  | tail _ hevent ih =>
    have hlast := hevent.final (ih.returned ▸ hr)
    exact ⟨hlast.returned.trans ih.returned, hlast.suppliers.trans ih.suppliers,
      fun hc => hlast.cancelled (ih.cancelled hc)⟩

theorem Step.cancelled (h : Step v w) (hok : ∀ e, w.returned ≠ some (.error e)) :
    w.scan.pool.cancelled = v.scan.pool.cancelled := by
  cases h with
  | works _ hworks => exact hworks.cancelled
  | reads _ _ hc => exact hc
  | look =>
    rcases look_cases v with hsame | ⟨_, _, hlook⟩
    · rw [hsame]
    · exact absurd (by rw [hlook]; rfl) (hok .cancelled)
  | join =>
    rcases join_cases v with hsame | ⟨outcome, _, _, hjoin⟩
    · rw [hsame]
    · rw [hjoin]
      cases outcome with
      | ok results => rfl
      | error e => exact absurd (by rw [hjoin]; rfl) (hok e)

theorem Step.not_failed (h : Step v w) (hok : ∀ e, w.returned ≠ some (.error e)) (e : Error) :
    v.returned ≠ some (.error e) := by
  intro he
  have hsame := (Event.step h).final (by simp [he])
  exact hok e (hsame.returned.trans he)

theorem cancelled_of_steps (h : Relation.ReflTransGen Step v w)
    (hok : ∀ e, w.returned ≠ some (.error e)) :
    w.scan.pool.cancelled = v.scan.pool.cancelled := by
  induction h with
  | refl => rfl
  | tail _ hstep ih => exact (hstep.cancelled hok).trans (ih (hstep.not_failed hok))

theorem cancel_of_cancelled (hc : s.pool.cancelled = true) : s.cancel = s := by
  have hpool : s.pool.cancel = s.pool := by rw [Pool.cancel, ← hc]
  rw [Scan.cancel, hpool]
  rfl

/-- Under a cancelled pool a scanner returns at its first look and leaves all as it is. -/
theorem look_of_cancelled (hc : s.pool.cancelled = true) :
    look ⟨s, none⟩ = ⟨s, some (.error .cancelled)⟩ := by
  have hcancel := cancel_of_cancelled hc
  simp [look, hc, finish, Scan.conclude, hcancel]

/-- What the return of a scanner means, whatever its suppliers are. -/
structure Conclusive (w : Scanner) : Prop where
  accountable : Accountable w
  final : w.returned ≠ none → ∀ v, Comes w v → Final w v
  /-- Whatever has become of the pool in the meantime, a later scan over it is over before any of
  its suppliers takes a step. -/
  later : ∀ e, w.returned = some (.error e) → ∀ v, Comes w v → ∀ (s : Scan)
    (as : List (Pool.Act State)), s.pool = v.scan.pool.acts as →
    look ⟨s, none⟩ = ⟨s, some (.error .cancelled)⟩ ∧
      ∀ v', Comes (look ⟨s, none⟩) v' → Final (look ⟨s, none⟩) v'
  ok : ∀ v, Step w v → (∀ e, v.returned ≠ some (.error e)) →
    v.scan.pool.cancelled = w.scan.pool.cancelled

theorem Comes.conclusive (h : Comes ⟨s, none⟩ w) : Conclusive w where
  accountable := h.accountable (by intro e he; cases he)
  final hr v hv := hv.final hr
  later e he v hv s as hpool := by
    have haccountable : Accountable w := h.accountable (by intro e he; cases he)
    have hc : v.scan.pool.cancelled = true :=
      (hv.final (by simp [he])).cancelled (haccountable e he).2
    have hlook := look_of_cancelled (hpool ▸ Pool.cancelled_acts as hc : s.pool.cancelled = true)
    exact ⟨hlook, fun v' hv' => hv'.final (by simp [hlook])⟩
  ok _ hstep hok := hstep.cancelled hok

end Scanner

namespace Scanning

variable {project : String} {types : List ResourceType} {pool : Pool State} {alerts : Alerts}
  {u v w : Scanning} {ms : List Move} {m : Move}

/-- A scan over a pool that is there, which may have been scanned over before. -/
def onPool (project : String) (types : List ResourceType) (pool : Pool State) (alerts : Alerts) :
    Scanning := ⟨⟨Scan.start project types pool alerts, .empty⟩, [], none⟩

theorem comes_take (m : Move) (u : Scanning) : Scanner.Comes u.scanner (u.take m).scanner := by
  by_cases hm : m = .cancel
  · subst hm
    exact .single (.cancel u.scanner)
  · exact Scanner.comes_of_steps (scanner_take hm u)

theorem comes_run (ms : List Move) (u : Scanning) :
    Scanner.Comes u.scanner (u.run ms).scanner := by
  induction ms generalizing u with
  | nil => exact .refl
  | cons m ms ih => exact (comes_take m u).trans (ih (u.take m))

/-- What a scan has done is all that it does. -/
structure Stands (u v : Scanning) : Prop extends Rests u v where
  calls : v.scan.calls = u.scan.calls
  reads : v.scan.reads = u.scan.reads
  heard : v.log.heard = u.log.heard
  accepted : v.log.pool.accepted = u.log.pool.accepted

theorem Stands.refl (u : Scanning) : Stands u u := ⟨.refl u, rfl, rfl, rfl, rfl⟩

theorem Stands.trans (h : Stands u v) (h' : Stands v w) : Stands u w where
  suppliers := h'.suppliers.trans h.suppliers
  project := h'.project.trans h.project
  alerts := h'.alerts.trans h.alerts
  opened := h'.opened.trans h.opened
  begun := h'.begun.trans h.begun
  sent := h'.sent.trans h.sent
  returned := h'.returned.trans h.returned
  calls := h'.calls.trans h.calls
  reads := h'.reads.trans h.reads
  heard := h'.heard.trans h.heard
  accepted := h'.accepted.trans h.accepted

/-- After the scanner's return a move does nothing, or what it does to the pool accepts no read. -/
theorem take_of_returned (hr : u.returned ≠ none) (m : Move) : (u.take m).survey = u.survey ∨
    ∃ a : Pool.Act State, (∀ i job, a ≠ .accept i job) ∧ (u.take m).survey = u.survey.act a := by
  have hlook : u.scanner.look = u.scanner := Scanner.look_of_returned hr
  have hjoin : u.scanner.join = u.scanner := Scanner.join_of_returned hr
  cases m with
  | answer | submit | await =>
    left
    simp only [take, supply_of_some hr]
  | pass i =>
    left
    simp only [take]
    split <;> rfl
  | advance k => exact .inr ⟨.advance k, by simp, rfl⟩
  | cancel => exact .inr ⟨.cancel, by simp, rfl⟩
  | look =>
    left
    simp only [take, hlook]
    rfl
  | join =>
    left
    simp only [take, hjoin]
    rfl

theorem stands_take (hr : u.returned ≠ none) (m : Move) : Stands u (u.take m) := by
  have hrests := rests_of_returned hr m
  rcases take_of_returned hr m with hsame | ⟨a, ha, hact⟩
  · exact ⟨hrests, congrArg (·.scan.calls) hsame, congrArg (·.scan.reads) hsame,
      congrArg (·.log.heard) hsame, congrArg (·.log.pool.accepted) hsame⟩
  · have hacc := Pool.Log.accepted_note ha u.scan.pool u.log.pool
    exact ⟨hrests, congrArg (·.scan.calls) hact, congrArg (·.scan.reads) hact,
      congrArg (·.log.heard) hact, (congrArg (·.log.pool.accepted) hact).trans hacc⟩

theorem stands_run (hr : u.returned ≠ none) (ms : List Move) : Stands u (u.run ms) := by
  induction ms generalizing u with
  | nil => exact .refl u
  | cons m ms ih =>
    have hstep := stands_take hr m
    exact hstep.trans (ih (hstep.returned ▸ hr))

theorem returned_supply (n : Survey.Move) (u : Scanning) : (u.supply n).returned = u.returned := by
  unfold supply
  split <;> rfl

theorem active_withScanner {s : Scanner} (hs : s = u.scanner.look ∨ s = u.scanner.join) :
    (u.withScanner s).scan.pool.active = u.scan.pool.active := by
  rcases withScanner_survey hs with hsame | hcancel
  · exact congrArg (·.scan.pool.active) hsame
  · exact congrArg (·.scan.pool.active) hcancel

/-- As a scan returns, and afterwards, only their own steps touch the reads that go on. -/
theorem active_take (hr : (u.take m).returned ≠ none) (hm : ∀ k, m ≠ .advance k) :
    (u.take m).scan.pool.active = u.scan.pool.active := by
  have hsupply : ∀ n, (u.supply n).returned ≠ none →
      (u.supply n).scan.pool.active = u.scan.pool.active := by
    intro n hn
    rw [returned_supply] at hn
    rw [supply_of_some hn]
  cases m with
  | answer i page => exact hsupply (.answer i page) hr
  | await i => exact hsupply (.await i) hr
  | submit i gate free ending => exact hsupply (.submit i (u.entry i gate) _ ending) hr
  | pass i =>
    simp only [take]
    split <;> rfl
  | advance k => exact absurd rfl (hm k)
  | cancel => rfl
  | look => exact active_withScanner (.inl rfl)
  | join => exact active_withScanner (.inr rfl)

/-- A scan that has not failed has left the cancellation of its pool to others. -/
theorem cancelled_run (hok : ∀ e, (u.run ms).returned ≠ some (.error e)) :
    (u.run ms).scan.pool.cancelled = true ↔ u.scan.pool.cancelled = true ∨ .cancel ∈ ms := by
  induction ms generalizing u with
  | nil => simp
  | cons m ms ih =>
    -- what it returns at some point it has returned at the end
    have hopen : ∀ e, (u.take m).returned ≠ some (.error e) := by
      intro e he
      have hr : (u.take m).returned ≠ none := by simp [he]
      exact hok e ((stands_run hr ms).returned.trans he)
    rw [run_cons, ih hok, List.mem_cons]
    by_cases hm : m = .cancel
    · subst hm
      have hcancelled : (u.take .cancel).scan.pool.cancelled = true := rfl
      simp [hcancelled]
    · have hsame : (u.take m).scan.pool.cancelled = u.scan.pool.cancelled :=
        Scanner.cancelled_of_steps (scanner_take hm u) hopen
      simp [hsame, Ne.symm hm]

/-- What is left of a scan, `pool` being what the scan was over. -/
structure Final (pool : Pool State) (ms : List Move) (u : Scanning) : Prop where
  source : ∀ e, u.returned = some (.error e) → e = .cancelled ∨ ∃ i, u.result? i = some (.error e)
  cancelled : ∀ e, u.returned = some (.error e) → u.scan.pool.cancelled = true
  stands : u.returned ≠ none → ∀ ms', Stands u (u.run ms')
  active : ∀ m, (u.take m).returned ≠ none → (∀ k, m ≠ .advance k) →
    (u.take m).scan.pool.active = u.scan.pool.active
  /-- Whatever has become of the pool in the meantime, the first look of a later scan over it is
  the last. -/
  later : ∀ e, u.returned = some (.error e) → ∀ (ms' : List Move) (as : List (Pool.Act State))
    (project : String) (types : List ResourceType) (alerts : Alerts) (ms'' : List Move),
    let w := ((onPool project types ((u.run ms').scan.pool.acts as) alerts).take .look).run ms''
    w.returned = some (.error .cancelled) ∧ w.scan.calls = [] ∧ w.scan.reads = [] ∧
      w.scan.alerts = alerts ∧ w.log.pool.accepted = []
  ok : ∀ resources, u.returned = some (.ok resources) →
    (u.scan.pool.cancelled = true ↔ pool.cancelled = true ∨ .cancel ∈ ms)

theorem refused_onPool (hc : pool.cancelled = true) (project : String) (types : List ResourceType)
    (alerts : Alerts) (ms : List Move) :
    let w := ((onPool project types pool alerts).take .look).run ms
    w.returned = some (.error .cancelled) ∧ w.scan.calls = [] ∧ w.scan.reads = [] ∧
      w.scan.alerts = alerts ∧ w.log.pool.accepted = [] := by
  have hlook : (onPool project types pool alerts).scanner.look =
      ⟨(onPool project types pool alerts).scan, some (.error .cancelled)⟩ :=
    Scanner.look_of_cancelled hc
  have hfirst : (onPool project types pool alerts).take .look =
      (onPool project types pool alerts).withScanner
        ⟨(onPool project types pool alerts).scan, some (.error .cancelled)⟩ := by
    rw [← hlook]
    rfl
  have hreturned : ((onPool project types pool alerts).take .look).returned ≠ none := by
    rw [hfirst]
    exact Option.some_ne_none _
  have hstands := stands_run hreturned ms
  rw [hfirst] at hstands ⊢
  exact ⟨hstands.returned, hstands.calls, hstands.reads, hstands.alerts, hstands.accepted⟩

/-- A failed scan is final. It has failed with the cancellation or with the error of a supplier,
it has cancelled its pool, and neither it nor any later scan over the pool lists or reads any
more. -/
theorem failed_scan_final :
    (∀ (s : Scan) (w : Scanner), Scanner.Comes ⟨s, none⟩ w → Scanner.Conclusive w) ∧
    ∀ (project : String) (types : List ResourceType) (pool : Pool State) (alerts : Alerts)
      (ms : List Move), Final pool ms ((onPool project types pool alerts).run ms) := by
  refine ⟨fun s w h => h.conclusive, fun project types pool alerts ms => ?_⟩
  have hcomes := comes_run ms (onPool project types pool alerts)
  have haccountable := hcomes.conclusive.accountable
  exact {
    source := fun e he => by
      rcases (haccountable e he).1 with hcancelled | ⟨p, hp, hresult⟩
      · exact .inl hcancelled
      · obtain ⟨i, hi⟩ := List.mem_iff_getElem?.mp hp
        exact .inr ⟨i, Option.bind_eq_some_iff.mpr ⟨p, hi, hresult⟩⟩
    cancelled := fun e he => (haccountable e he).2
    stands := fun hr => stands_run hr
    active := fun m => active_take
    later := fun e he ms' as project' types' alerts' ms'' => by
      have hr : ((onPool project types pool alerts).run ms).returned ≠ none := by simp [he]
      have hlater := comes_run ms' ((onPool project types pool alerts).run ms)
      have hc := (hlater.final hr).cancelled (haccountable e he).2
      exact refused_onPool (Pool.cancelled_acts as hc) project' types' alerts' ms''
    ok := fun resources hok => cancelled_run fun e he => by simp [hok] at he }

/-- The listing of the zones breaks while a network is read and another one is to be submitted. -/
def breakingMoves : List Move :=
  [.answer 0 (.ok networks), .pass 0, .submit 0 .scope true (.value (networkState "b")), .pass 0,
    .answer 1 (.error (.api 500 "url" "broken")), .look, .join]

theorem breakingMoves_final :
    let u := (onPool "p" [.computeNetwork, .dnsManagedZone] (Pool.new 1) []).run breakingMoves
    u.returned = some (.error (.api 500 "url" "broken")) ∧ u.scan.pool.cancelled = true ∧
      u.scan.pool.active.length = 1 ∧
      (u.run [.submit 0 .permit true (.panic ""), .advance 0]).scan.pool.active = [] ∧
      Scanner.Conclusive u.scanner ∧ Final (Pool.new 1) breakingMoves u := by
  intro u
  have hcomes : Scanner.Comes ⟨Scan.start "p" [.computeNetwork, .dnsManagedZone] (Pool.new 1) [],
      none⟩ u.scanner := comes_run breakingMoves (onPool "p" _ (Pool.new 1) [])
  exact ⟨rfl, rfl, rfl, rfl, failed_scan_final.1 _ _ hcomes,
    failed_scan_final.2 "p" _ (Pool.new 1) [] breakingMoves⟩

end Scanning

end CloudInventory
