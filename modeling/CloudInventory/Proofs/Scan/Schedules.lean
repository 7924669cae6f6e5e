import CloudInventory.Proofs.Fairness
import CloudInventory.Proofs.Scan.Rank
import CloudInventory.Proofs.Scan.Scanning

/-! Schedules of a scan over a source. A schedule tells whose turn it is, and the source gives all
answers. Over a regular source every fair schedule comes to an end. -/

namespace CloudInventory

/-- The turns of a schedule: whose it is, and how far a submission has come. -/
inductive Choice where
  | call (i : Nat)
  | pass (i : Nat)
  | submit (i : Nat) (gate : Gate) (free : Bool)
  | await (i : Nat)
  | advance (k : Nat)
  | look
  | join
deriving DecidableEq

namespace Choice

variable {n : Nat}

/-- The turns that `n` suppliers, their reads and the scanner need to go on. -/
def turns (n : Nat) : List Choice :=
  .advance 0 :: .join ::
    (List.range n).flatMap fun i => [.call i, .submit i .scope true, .await i]

theorem mem_turns {i : Nat} (hi : i < n) {c : Choice}
    (hc : c ∈ [.call i, .submit i .scope true, .await i]) : c ∈ turns n :=
  List.mem_cons_of_mem _ (List.mem_cons_of_mem _
    (List.mem_flatMap.mpr ⟨i, List.mem_range.mpr hi, hc⟩))

/-- Each of these turns comes again and again; the others may come at any time. -/
def Fair (n : Nat) (σ : Nat → Choice) : Prop := ∀ c ∈ turns n, ∀ k, ∃ j ≥ k, σ j = c

def roundRobin (cs : List Choice) (k : Nat) : Choice := (cs[k % cs.length]?).getD .look

theorem roundRobin_fair {cs : List Choice} (h : ∀ c ∈ turns n, c ∈ cs) :
    Fair n (roundRobin cs) := fun c hc => recurs_cycle (h c hc)

end Choice

namespace Source

/-- The answer to the list call of a supplier. -/
def answer (source : Source) (i : Nat) (s : Scan) : Except Error (Page Json) :=
  ((s.request? i).map fun call => source.page call.1 call.2).getD (.error .cancelled)

def move (source : Source) (u : Scanning) : Choice → Scanning.Move
  | .call i => .answer i (source.answer i u.scan)
  | .pass i => .pass i
  | .submit i gate free => .submit i gate free (source.ending i u.scan)
  | .await i => .await i
  | .advance k => .advance k
  | .look => .look
  | .join => .join

end Source

namespace Scanning

variable {project : String} {types : List ResourceType} {limit : Nat} {source : Source}
  {u v : Scanning} {c : Choice} {σ : Nat → Choice} {n : Nat}

def drive (source : Source) (c : Choice) (u : Scanning) : Scanning := u.take (source.move u c)

/-- A scan along a schedule. -/
def course (source : Source) (σ : Nat → Choice) (u : Scanning) : Nat → Scanning
  | 0 => u
  | n + 1 => (u.course source σ n).drive source (σ n)

theorem move_ne_cancel (source : Source) (u : Scanning) (c : Choice) :
    source.move u c ≠ .cancel := by cases c <;> simp [Source.move]

/-- A turn leaves the survey as it is, or takes a move in it, with the answer of the source. -/
def Turns (source : Source) (u : Scanning) (v : Survey) : Prop :=
  v = u.survey ∨
    ∃ m : Survey.Move, u.survey.Allows m ∧ m.IsFrom source u.survey ∧ v = u.survey.take m

theorem turns_supply {m : Survey.Move} (hm : u.survey.Allows m)
    (hfrom : m.IsFrom source u.survey) : Turns source u (u.supply m).survey := by
  unfold supply
  split
  · exact .inr ⟨m, hm, hfrom, rfl⟩
  · exact .inl rfl

theorem turns_drive (source : Source) (c : Choice) (u : Scanning) :
    Turns source u (u.drive source c).survey := by
  have hscanner : ∀ s, s = u.scanner.look ∨ s = u.scanner.join →
      Turns source u (u.withScanner s).survey := fun s hs =>
    (withScanner_survey hs).imp_right fun hcancel => ⟨.cancel, trivial, trivial, hcancel⟩
  cases c with
  | call i =>
    refine turns_supply (m := .answer i (source.answer i u.scan)) trivial fun call hcall => ?_
    simp only [Source.answer, show u.scan.request? i = some call from hcall]
    rfl
  | pass i =>
    refine .inl ?_
    simp only [drive, Source.move, take]
    split <;> rfl
  | submit i gate free =>
    have hallows := allows_submit i (u.entry i gate) free (source.ending i u.scan) u.survey
    exact turns_supply hallows (Survey.isFrom_ending source i _ _ u.survey)
  | await i => exact turns_supply (m := .await i) trivial trivial
  | advance k => exact .inr ⟨.advance k, trivial, trivial, rfl⟩
  | look => exact hscanner _ (.inl rfl)
  | join => exact hscanner _ (.inr rfl)

theorem returned_drive (hc : c ≠ .look) (hc' : c ≠ .join) :
    (u.drive source c).returned = u.returned := by
  have hsupply : ∀ m, (u.supply m).returned = u.returned := by
    intro m
    unfold supply
    split <;> rfl
  cases c with
  | call | submit | await => exact hsupply _
  | pass i => exact (rests_pass i u).returned
  | advance => rfl
  | look => exact absurd rfl hc
  | join => exact absurd rfl hc'

/-- A scan over a regular source, in any schedule. -/
structure Driven (source : Source) (project : String) (types : List ResourceType) (limit : Nat)
    (u : Scanning) : Prop where
  regular : ∀ t ∈ types, source.Regular project t
  reached : Survey.Reached project types limit [] u.survey
  scanner : Scanner.Reached (start project types limit []).scan u.scanner
  sourced : u.survey.Sourced source
  uncancelled : u.scan.pool.cancelled = false

namespace Driven

theorem start (hreg : ∀ t ∈ types, source.Regular project t) (limit : Nat) :
    Driven source project types limit (start project types limit []) where
  regular := hreg
  reached := .refl
  scanner := .refl
  sourced := ⟨by simp [Scanning.start, Survey.start, Scan.Log.empty],
    by simp [Scanning.start, Survey.start, Scan.Log.empty]⟩
  uncancelled := rfl

theorem sound (h : Driven source project types limit u) :
    Survey.Sound project types limit [] u.survey := h.reached.sound

theorem brings (h : Driven source project types limit u) {i : Nat} {t : ResourceType}
    {result : Except Error (List Resource)}
    (hi : u.scan.suppliers[i]? = some ⟨t, .finished result⟩) :
    ∃ found, result = .ok found ∧ Survey.Brings source project t found (u.log.sentBy i) := by
  have ht := List.mem_of_getElem? (h.sound.tallies.type_of_supplier hi)
  exact h.sound.brings h.reached.told h.sourced (h.regular t ht) h.uncancelled hi

theorem results_ok (h : Driven source project types limit u)
    {outcome : Except Error (List (List Resource))}
    (hres : Scan.results? u.scan.suppliers = some outcome) : ∃ results, outcome = .ok results := by
  cases outcome with
  | ok results => exact ⟨results, rfl⟩
  | error e =>
    obtain ⟨p, hp, herror⟩ := Scan.results?_error hres
    obtain ⟨i, hi⟩ := List.mem_iff_getElem?.mp hp
    rw [Supplier.eq_of_result? herror] at hi
    obtain ⟨found, hfound, _⟩ := h.brings hi
    cases hfound

theorem returned (h : Driven source project types limit u) {outcome : Except Error (List Resource)}
    (ho : u.returned = some outcome) : ∃ results,
      Scan.results? u.scan.suppliers = some (.ok results) ∧
        outcome = .ok (Inventory.sorted results.flatten) := by
  obtain ⟨results, hres, rfl⟩ := (h.scanner.sound rfl).returned outcome ho
  obtain ⟨all, rfl⟩ := h.results_ok hres
  exact ⟨all, hres, rfl⟩

theorem no_error (h : Driven source project types limit u) (c : Choice) (e : Error) :
    (u.drive source c).returned ≠ some (.error e) := by
  intro he
  have hscanner : Scanner.Reached (Scanning.start project types limit []).scan
      (u.drive source c).scanner := h.scanner.trans (scanner_take (move_ne_cancel source u c) u)
  have hlook : ∀ s, s = u.scanner.look ∨ s = u.scanner.join →
      u.drive source c = u.withScanner s → False := by
    intro s hs hdrive
    obtain ⟨results, hres, herror⟩ := (hscanner.sound rfl).returned _ he
    rw [hdrive] at hres
    rw [show (u.withScanner s).scanner.scan.suppliers = u.scan.suppliers from
      (withScanner_rests hs).1] at hres
    obtain ⟨all, rfl⟩ := h.results_ok hres
    cases herror
  by_cases hl : c = .look
  · exact hlook _ (.inl rfl) (by rw [hl]; rfl)
  · by_cases hj : c = .join
    · exact hlook _ (.inr rfl) (by rw [hj]; rfl)
    · rw [returned_drive hl hj] at he
      obtain ⟨_, _, hok⟩ := h.returned he
      cases hok

theorem drive (h : Driven source project types limit u) (c : Choice) :
    Driven source project types limit (u.drive source c) where
  regular := h.regular
  reached := survey_reached h.reached [source.move u c]
  scanner := h.scanner.trans (scanner_take (move_ne_cancel source u c) u)
  sourced := by
    rcases turns_drive source c u with hsame | ⟨m, _, hfrom, htake⟩
    · exact hsame ▸ h.sourced
    · exact htake ▸ h.sourced.take hfrom
  uncancelled := by
    have hscanner := h.scanner.trans (scanner_take (move_ne_cancel source u c) u)
    exact (Scanner.Reached.sound hscanner rfl).uncancelled (h.no_error c)

theorem course (h : Driven source project types limit u) (σ : Nat → Choice) (n : Nat) :
    Driven source project types limit (u.course source σ n) := by
  induction n with
  | zero => exact h
  | succ n ih => exact ih.drive (σ n)

end Driven

section Returns

/-- What a schedule can change. -/
def view (u : Scanning) : Survey × Option (Except Error (List Resource)) := (u.survey, u.returned)

theorem drive_lowers (h : Driven source project types limit u) (c : Choice) :
    (u.drive source c).survey = u.survey ∨
      (u.drive source c).survey.scan.rank source < u.survey.scan.rank source := by
  rcases turns_drive source c u with hsame | ⟨m, hm, hfrom, htake⟩
  · exact .inl hsame
  · rw [htake]
    exact Survey.rank_take h.sound h.sourced (fun t ht => (h.regular t ht).terminates) hm hfrom

theorem join_turn (hr : u.returned = none) {outcome : Except Error (List (List Resource))}
    (hres : Scan.results? u.scan.suppliers = some outcome) (hv : v.view = u.view) :
    (v.drive source .join).view ≠ u.view := by
  intro hsame
  obtain ⟨hsurvey, hreturned⟩ := Prod.mk.inj hv
  have hthere : Scan.results? v.scanner.scan.suppliers = some outcome := by
    rwa [show v.scanner.scan = u.scan from congrArg Survey.scan hsurvey]
  have hjoin : v.scanner.join = v.scanner.finish outcome :=
    Scanner.join_of_some (hreturned.trans hr) hthere
  have hsome : (v.withScanner v.scanner.join).returned ≠ none := by
    rw [hjoin]
    exact Option.some_ne_none _
  exact hsome ((congrArg Prod.snd hsame).trans hr)

theorem supplier_turn (hs : Survey.Sound project types limit [] u.survey) (hr : u.returned = none)
    {i : Nat} {p : Supplier} (hi : u.scan.suppliers[i]? = some p) (hopen : p.result? = none) :
    ∃ c ∈ Choice.turns types.length, ∀ v : Scanning, v.view = u.view →
      (v.drive source c).view ≠ u.view := by
  have hlt : i < types.length := (List.getElem?_eq_some_iff.mp (hs.tallies.type_of_supplier hi)).1
  have hprogress : ∀ result, p.progress ≠ .finished result := by
    intro result hfinished
    simp [Supplier.result?, hfinished] at hopen
  have hmoved : ∀ m, u.survey.take m ≠ u.survey → ∀ w : Scanning, w.survey = u.survey.take m →
      w.view ≠ u.view := fun m hm w hw hsame => hm (hw.symm.trans (congrArg Prod.fst hsame))
  have hsupply : ∀ v : Scanning, v.view = u.view → ∀ m, (v.supply m).survey = u.survey.take m := by
    intro v hv m
    obtain ⟨hsurvey, hreturned⟩ := Prod.mk.inj hv
    rw [supply_of_none (hreturned.trans hr), onward, hsurvey]
  rcases hs.next_move hi hprogress with hmoves | hcall | ⟨hfree, hmoves⟩ | hmoves
  · refine ⟨.advance 0, by simp [Choice.turns], fun v hv => hmoved _ hmoves _ ?_⟩
    exact congrArg (Survey.take (.advance 0)) (Prod.mk.inj hv).1
  · obtain ⟨call, hreq⟩ := Option.isSome_iff_exists.mp hcall
    refine ⟨.call i, Choice.mem_turns hlt (by simp), fun v hv => ?_⟩
    exact hmoved _ (Survey.answer_moves hreq _) _ (hsupply v hv _)
  · refine ⟨.submit i .scope true, Choice.mem_turns hlt (by simp), fun v hv => ?_⟩
    have hthere : (true && decide (0 < v.scan.pool.free)) = true := by
      rw [show v.scan = u.scan from congrArg Survey.scan (Prod.mk.inj hv).1]
      exact decide_eq_true hfree
    have hentry : v.entry i .scope = .scope := ite_self _
    refine hmoved _ (hmoves (source.ending i v.scan)) _ ((hsupply v hv _).trans ?_)
    rw [hthere, hentry]
  · refine ⟨.await i, Choice.mem_turns hlt (by simp), fun v hv => ?_⟩
    exact hmoved _ hmoves _ (hsupply v hv _)

/-- A scan that has not returned has a turn before it that changes it, whatever submissions have
passed until then. -/
theorem Driven.next_turn (h : Driven source project types limit u) (hr : u.returned = none) :
    ∃ c ∈ Choice.turns types.length, ∀ v : Scanning, v.view = u.view →
      (v.drive source c).view ≠ u.view := by
  cases hres : Scan.results? u.scan.suppliers with
  | some outcome => exact ⟨.join, by simp [Choice.turns], fun v hv => join_turn hr hres hv⟩
  | none =>
    obtain ⟨p, hp, hopen⟩ := Scan.unfinished_of_none hres
    obtain ⟨i, hi⟩ := List.mem_iff_getElem?.mp hp
    exact supplier_turn h.sound hr hi hopen

theorem course_returns (h : Driven source project types limit u)
    (hσ : Choice.Fair types.length σ) : ∃ n, (u.course source σ n).returned ≠ none := by
  refine exists_of_fair (fun c v => v.drive source c) view (fun x => x.1.scan.rank source)
    (P := fun x => x.2 ≠ none) (s := u.course source σ) (fun _ => rfl)
    (fun n hn => ?_) fun n hn => ?_
  · have hdriven := h.course σ n
    by_cases hr : (u.course source σ (n + 1)).returned = none
    · have hsame : (u.course source σ (n + 1)).returned = (u.course source σ n).returned :=
        hr.trans (not_not.mp hn).symm
      refine .inr ((drive_lowers hdriven (σ n)).imp_left fun hsurvey => ?_)
      exact Prod.ext hsurvey hsame
    · exact .inl hr
  · obtain ⟨c, hc, hmoves⟩ := (h.course σ n).next_turn (not_not.mp hn)
    exact ⟨c, hσ c hc, hmoves⟩

end Returns

end Scanning

end CloudInventory
