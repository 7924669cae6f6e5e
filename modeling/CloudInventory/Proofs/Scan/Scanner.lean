import CloudInventory.Proofs.Inventory
import CloudInventory.Scan.Basic
import Mathlib.Data.List.Forall2
import Mathlib.Logic.Relation

/-! A scanner over its suppliers, whatever these are. It returns when it finds the pool cancelled,
a supplier that has failed, or the results of all of them; what it returns is theirs, in order. -/

namespace CloudInventory

theorem Supplier.eq_of_result? {p : Supplier} {result : Except Error (List Resource)}
    (h : p.result? = some result) : p = ⟨p.type, .finished result⟩ := by
  obtain ⟨t, progress⟩ := p
  cases progress with
  | finished r =>
    obtain rfl := Option.some.inj h
    rfl
  | listing | submitting | waiting => cases h

namespace Scan

variable {suppliers : List Supplier}

theorem results?_ok {results : List (List Resource)} (h : results? suppliers = some (.ok results)) :
    suppliers.map Supplier.result? = results.map fun found => some (.ok found) := by
  induction suppliers generalizing results with
  | nil =>
    obtain rfl : [] = results := by simpa [results?] using h
    rfl
  | cons p rest ih =>
    cases hp : p.result? with
    | none =>
      simp only [results?, hp] at h
      split at h <;> cases h
    | some result =>
      cases result with
      | error e => simp [results?, hp] at h
      | ok found =>
        simp only [results?, hp, Option.map_eq_some_iff] at h
        obtain ⟨outcome, hrest, hmap⟩ := h
        cases outcome with
        | error e => cases hmap
        | ok all =>
          obtain rfl := Except.ok.inj hmap
          simp [hp, ih hrest]

theorem results?_of_ok (h : ∀ p ∈ suppliers, ∃ found, p.result? = some (.ok found)) :
    ∃ results, results? suppliers = some (.ok results) := by
  induction suppliers with
  | nil => exact ⟨[], rfl⟩
  | cons p rest ih =>
    obtain ⟨found, hp⟩ := h p List.mem_cons_self
    obtain ⟨results, hrest⟩ := ih fun q hq => h q (List.mem_cons_of_mem _ hq)
    exact ⟨found :: results, by simp [results?, hp, hrest, Except.map]⟩

theorem results?_error {e : Error} (h : results? suppliers = some (.error e)) :
    ∃ p ∈ suppliers, p.result? = some (.error e) := by
  induction suppliers with
  | nil => simp [results?] at h
  | cons p rest ih =>
    have hthere : results? rest = some (.error e) →
        ∃ q ∈ p :: rest, q.result? = some (.error e) := by
      intro hrest
      obtain ⟨q, hq, he⟩ := ih hrest
      exact ⟨q, List.mem_cons_of_mem _ hq, he⟩
    cases hp : p.result? with
    | none =>
      simp only [results?, hp] at h
      split at h
      · rename_i hrest
        exact hthere (hrest.trans h)
      · cases h
    | some result =>
      cases result with
      | error d => exact ⟨p, List.mem_cons_self, by simpa [results?, hp] using h⟩
      | ok found =>
        simp only [results?, hp, Option.map_eq_some_iff] at h
        obtain ⟨outcome, hrest, hmap⟩ := h
        cases outcome with
        | ok all => cases hmap
        | error d =>
          obtain rfl := Except.error.inj hmap
          exact hthere hrest

theorem results?_of_error (h : ∃ p ∈ suppliers, ∃ e, p.result? = some (.error e)) :
    ∃ e, results? suppliers = some (.error e) := by
  induction suppliers with
  | nil => simp at h
  | cons p rest ih =>
    have hrest : (∀ e, p.result? ≠ some (.error e)) → ∃ e, results? rest = some (.error e) := by
      intro hne
      obtain ⟨q, hq, e, he⟩ := h
      rcases List.mem_cons.mp hq with rfl | hq
      · exact absurd he (hne e)
      · exact ih ⟨q, hq, e, he⟩
    cases hp : p.result? with
    | none =>
      obtain ⟨e, he⟩ := hrest (by simp [hp])
      exact ⟨e, by simp [results?, hp, he]⟩
    | some result =>
      cases result with
      | error e => exact ⟨e, by simp [results?, hp]⟩
      | ok found =>
        obtain ⟨e, he⟩ := hrest (by simp [hp])
        exact ⟨e, by simp [results?, hp, he, Except.map]⟩

theorem not_failed_of_none (h : results? suppliers = none) (i : Nat)
    (e : Error) : (suppliers[i]?).bind Supplier.result? ≠ some (.error e) := by
  intro he
  obtain ⟨p, hi, hp⟩ := Option.bind_eq_some_iff.mp he
  obtain ⟨e', hres⟩ := results?_of_error ⟨p, List.mem_of_getElem? hi, e, hp⟩
  cases h.symm.trans hres

theorem unfinished_of_none (h : results? suppliers = none) :
    ∃ p ∈ suppliers, p.result? = none := by
  by_contra hall
  have hok : ∀ p ∈ suppliers, ∃ found, p.result? = some (.ok found) := by
    intro p hp
    obtain ⟨result, hresult⟩ := Option.ne_none_iff_exists'.mp fun hnone => hall ⟨p, hp, hnone⟩
    obtain ⟨i, hi⟩ := List.mem_iff_getElem?.mp hp
    cases result with
    | ok found => exact ⟨found, hresult⟩
    | error e => exact absurd (by rw [hi]; exact hresult) (not_failed_of_none h i e)
  obtain ⟨results, hres⟩ := results?_of_ok hok
  cases h.symm.trans hres

/-- Suppliers that have returned the cancellation, or what others have in their places. -/
theorem results?_twin {ps qs : List Supplier} (h : ps.Forall₂ (fun p q =>
    p.result? = some (.error .cancelled) ∨ q.result? = p.result?) qs) :
    results? ps = some (.error .cancelled) ∨ results? qs = results? ps := by
  induction h with
  | nil => exact .inr rfl
  | @cons p q ps qs hpq _ ih =>
    rcases hpq with hgone | hsame
    · exact .inl (by simp [results?, hgone])
    · cases hp : p.result? with
      | none =>
        rcases ih with hgone | hrest
        · exact .inl (by simp [results?, hp, hgone])
        · exact .inr (by simp [results?, hsame, hp, hrest])
      | some result =>
        cases result with
        | error e => exact .inr (by simp [results?, hsame, hp])
        | ok found =>
          rcases ih with hgone | hrest
          · exact .inl (by simp [results?, hp, hgone, Except.map])
          · exact .inr (by simp [results?, hsame, hp, hrest])

/-- What a scanner returns for the results of its suppliers. -/
def gathered (outcome : Except Error (List (List Resource))) : Except Error (List Resource) :=
  outcome.map fun results => Inventory.sorted results.flatten

theorem conclude_fst (outcome : Except Error (List (List Resource))) (s : Scan) :
    (s.conclude outcome).1 = gathered outcome := by
  cases outcome <;> rfl

theorem conclude_suppliers (outcome : Except Error (List (List Resource))) (s : Scan) :
    (s.conclude outcome).2.suppliers = s.suppliers := by
  cases outcome <;> rfl

end Scan

structure Scanner where
  scan : Scan
  returned : Option (Except Error (List Resource))

namespace Scanner

def finish (outcome : Except Error (List (List Resource))) (s : Scanner) : Scanner :=
  ⟨(s.scan.conclude outcome).2, some (s.scan.conclude outcome).1⟩

/-- The scanner looks at the pool's cancellation. -/
def look (s : Scanner) : Scanner :=
  match s.returned with
  | none => if s.scan.pool.cancelled then s.finish (.error .cancelled) else s
  | some _ => s

/-- The scanner looks at its suppliers. -/
def join (s : Scanner) : Scanner :=
  match s.returned with
  | none =>
    match Scan.results? s.scan.suppliers with
    | some outcome => s.finish outcome
    | none => s
  | some _ => s

/-- What suppliers and reads may do to a scan: anything but cancel its pool, as long as a supplier
that has returned leaves it at that. -/
structure Works (s s' : Scan) : Prop where
  cancelled : s'.pool.cancelled = s.pool.cancelled
  suppliers : s.suppliers.Forall₂ (fun p q => p.type = q.type ∧
    ∀ result, p.result? = some result → q.result? = some result) s'.suppliers

/-- Once the scanner has returned, only the reads go on. -/
inductive Step : Scanner → Scanner → Prop
  | works {s scan} : s.returned = none → Works s.scan scan → Step s { s with scan }
  | reads {s scan} : s.returned ≠ none → scan.suppliers = s.scan.suppliers →
      scan.pool.cancelled = s.scan.pool.cancelled → Step s { s with scan }
  | look (s) : Step s s.look
  | join (s) : Step s s.join

def Reached (s : Scan) (w : Scanner) : Prop := Relation.ReflTransGen Step ⟨s, none⟩ w

variable {s : Scan} {w : Scanner}

theorem join_of_some {outcome : Except Error (List (List Resource))} (hr : w.returned = none)
    (hres : Scan.results? w.scan.suppliers = some outcome) : w.join = w.finish outcome := by
  simp only [join, hr, hres]

theorem join_of_none (hr : w.returned = none) (hres : Scan.results? w.scan.suppliers = none) :
    w.join = w := by
  simp only [join, hr, hres]

theorem join_of_returned (hr : w.returned ≠ none) : w.join = w := by
  cases h : w.returned with
  | none => exact absurd h hr
  | some outcome => simp only [join, h]

theorem look_of_returned (hr : w.returned ≠ none) : w.look = w := by
  cases h : w.returned with
  | none => exact absurd h hr
  | some outcome => simp only [look, h]

/-- A scan under an uncancelled pool has returned what its suppliers amount to. -/
structure Sound (s : Scan) (w : Scanner) : Prop where
  uncancelled : (∀ e, w.returned ≠ some (.error e)) → w.scan.pool.cancelled = false
  types : w.scan.suppliers.map (·.type) = s.suppliers.map (·.type)
  returned : ∀ outcome, w.returned = some outcome →
    ∃ results, Scan.results? w.scan.suppliers = some results ∧ outcome = Scan.gathered results

theorem Works.types {s s' : Scan} (h : Works s s') :
    s'.suppliers.map (·.type) = s.suppliers.map (·.type) := by
  have hall := h.suppliers
  generalize s.suppliers = ps, s'.suppliers = qs at hall
  induction hall with
  | nil => rfl
  | cons hpq _ ih => simp [hpq.1, ih]

theorem Sound.look (h : Sound s w) : w.look = w := by
  cases hr : w.returned with
  | none => simp [Scanner.look, hr, h.uncancelled (by simp [hr])]
  | some outcome => simp [Scanner.look, hr]

theorem Reached.sound (h : Reached s w) (hc : s.pool.cancelled = false) : Sound s w := by
  induction h with
  | refl => exact ⟨fun _ => hc, rfl, by simp⟩
  | @tail v w _ hstep ih =>
    cases hstep with
    | works hr hworks =>
      exact ⟨fun herr => hworks.cancelled.trans (ih.uncancelled herr),
        hworks.types.trans ih.types, by simp [hr]⟩
    | reads hr hsame hc =>
      refine ⟨fun herr => hc.trans (ih.uncancelled herr), by simpa only [hsame] using ih.types,
        fun outcome ho => ?_⟩
      simpa only [hsame] using ih.returned outcome ho
    | look => rwa [ih.look]
    | join =>
      cases hr : v.returned with
      | some outcome => rwa [join_of_returned (by simp [hr])]
      | none =>
        cases hres : Scan.results? v.scan.suppliers with
        | none => rwa [join_of_none hr hres]
        | some results =>
          rw [join_of_some hr hres]
          refine ⟨fun herr => ?_, ?_, fun outcome ho => ⟨results, ?_, ?_⟩⟩
          · cases results with
            | ok all => exact ih.uncancelled (by simp [hr])
            | error e => exact absurd rfl (herr e)
          · rw [finish, Scan.conclude_suppliers, ih.types]
          · rwa [finish, Scan.conclude_suppliers]
          · simpa [finish, Scan.conclude_fst] using ho.symm

/-- The next look of a scanner that has not returned. -/
theorem Sound.poll (h : Sound s w) (hr : w.returned = none)
    {results : Except Error (List (List Resource))}
    (hres : Scan.results? w.scan.suppliers = some results) :
    w.look.join.returned = some (Scan.gathered results) := by
  rw [h.look, join_of_some hr hres]
  exact congrArg some (Scan.conclude_fst results w.scan)

/-- What a scan under an uncancelled pool comes to: resources if and only if all suppliers have
theirs, and then these in order. -/
structure Complete (s : Scan) (w : Scanner) : Prop where
  suppliers : w.scan.suppliers.map (·.type) = s.suppliers.map (·.type)
  ok_iff : ∀ outcome, w.returned = some outcome → ((∃ resources, outcome = .ok resources) ↔
    ∀ p ∈ w.scan.suppliers, ∃ found, p.result? = some (.ok found))
  returns : w.returned = none → (∀ p ∈ w.scan.suppliers, ∃ found, p.result? = some (.ok found)) →
    ∃ resources, w.look.join.returned = some (.ok resources)
  fails : w.returned = none → (∃ p ∈ w.scan.suppliers, ∃ e, p.result? = some (.error e)) →
    ∃ e, w.look.join.returned = some (.error e)
  /-- The results of all suppliers, in byte order and otherwise in the suppliers' order. -/
  arranged : ∀ resources, w.returned = some (.ok resources) → ∃ results : List (List Resource),
    w.scan.suppliers.map Supplier.result? = results.map (fun found => some (.ok found)) ∧
    resources.Perm results.flatten ∧ resources.Pairwise Inventory.InByteOrder ∧
    ∀ k, resources.filter (Inventory.key · = k) = results.flatten.filter (Inventory.key · = k)
  counted : ∀ resources, w.returned = some (.ok resources) →
    (∀ type, (Dict.find? type (Inventory.countByType resources)).getD 0 =
      (Inventory.ofType type resources).length) ∧
    ((Inventory.countByType resources).map (·.2)).sum = resources.length

theorem Sound.complete (h : Sound s w) : Complete s w where
  suppliers := h.types
  ok_iff outcome ho := by
    obtain ⟨results, hres, rfl⟩ := h.returned outcome ho
    constructor
    · rintro ⟨resources, hok⟩ p hp
      cases results with
      | error e => cases hok
      | ok all =>
        have hmem : p.result? ∈ all.map fun found => some (.ok found) :=
          Scan.results?_ok hres ▸ List.mem_map_of_mem hp
        obtain ⟨found, _, hfound⟩ := List.mem_map.mp hmem
        exact ⟨found, hfound.symm⟩
    · intro hall
      obtain ⟨all, hok⟩ := Scan.results?_of_ok hall
      rw [hres, Option.some.injEq] at hok
      subst hok
      exact ⟨_, rfl⟩
  returns hr hall := by
    obtain ⟨all, hres⟩ := Scan.results?_of_ok hall
    exact ⟨_, h.poll hr hres⟩
  fails hr hsome := by
    obtain ⟨e, hres⟩ := Scan.results?_of_error hsome
    exact ⟨e, h.poll hr hres⟩
  arranged resources hw := by
    obtain ⟨results, hres, hok⟩ := h.returned _ hw
    cases results with
    | error e => cases hok
    | ok all =>
      obtain rfl : resources = Inventory.sorted all.flatten := Except.ok.inj hok
      have hpairs := (Inventory.sorted_pairwise all.flatten).imp Inventory.precedes_iff.mp
      exact ⟨all, Scan.results?_ok hres, Inventory.sorted_perm _, hpairs,
        Inventory.sorted_stable _⟩
  counted resources _ :=
    ⟨fun type => Inventory.countByType_find? type resources, Inventory.countByType_sum resources⟩

end Scanner

end CloudInventory
