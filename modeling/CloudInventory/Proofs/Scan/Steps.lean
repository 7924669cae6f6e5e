import CloudInventory.Proofs.Scan.Changes

/-! The steps of one supplier: what they add to the log, and that they touch nothing of the other
suppliers. -/

namespace CloudInventory

namespace Pool

variable {α : Type} {p : Pool α} {gate : Gate} {r : Nat} {free : Bool}

theorem lookFrom_eq_refused :
    p.lookFrom gate r free = .refused ↔ gate = .scope ∧ p.cancelled = true := by
  have hpermit : p.lookFrom .permit r free ≠ .refused := by cases free <;> simp [lookFrom]
  have hmark : p.lookWithin r free ≠ .refused := by
    unfold lookWithin
    split
    · simp
    · exact hpermit
  cases gate with
  | scope =>
    simp only [lookFrom, look, true_and]
    split
    · simp [*]
    · simp [*]
  | mark => simpa [lookFrom] using hmark
  | permit => simpa using hpermit

end Pool

/-- The read that a supplier submits next. -/
def Scan.nextRead? (i : Nat) (s : Scan) : Option ReadArgs :=
  match s.suppliers[i]? with
  | some ⟨_, .submitting _ (args :: _)⟩ => some args
  | _ => none

namespace Survey

variable {u v w : Survey} {i j r : Nat} {t : ResourceType}

section Logs

theorem heard_answer {call : ListRequest × Option String} (hreq : u.scan.request? i = some call)
    (page : Except Error (Page Json)) :
    (u.take (.answer i page)).log.heard = u.log.heard ++ [(i, (call, page))] := by
  rcases answer_cases i page u with ⟨hnone, _⟩ | ⟨t, l, call', _, _, hreq', hlisted⟩
  · rw [hreq] at hnone
    cases hnone
  · obtain rfl := Option.some.inj (hreq.symm.trans hreq')
    rw [hlisted]
    unfold listed
    split <;> rfl

theorem begun_take {m : Move} (hm : ∀ i gate free ending, m ≠ .submit i gate free ending)
    (u : Survey) : (u.take m).log.begun = u.log.begun := by
  cases m with
  | submit i gate free ending => exact absurd rfl (hm i gate free ending)
  | answer i page =>
    simp only [take, Scan.Log.answered]
    split
    · split <;> rfl
    · rfl
  | await i =>
    simp only [take, Scan.Log.awaited]
    split
    · split <;> rfl
    · rfl
  | advance | cancel => rfl

/-- A submission begins one read at most, and none if it looks at the cancellation. -/
theorem begun_submit (i : Nat) (gate : Gate) (free : Bool) (ending : Ending State) (u : Survey) :
    (u.take (.submit i gate free ending)).log.begun = u.log.begun ∨
      ¬(gate = .scope ∧ u.scan.pool.cancelled = true) ∧ ∃ b : Read, b.supplier = i ∧
        b.ending = ending ∧ u.scan.nextRead? i = some b.args ∧
        (u.take (.submit i gate free ending)).log.begun = u.log.begun ++ [b] := by
  rcases submit_cases i gate free ending u with hsame | ⟨t, r, _, hwaits⟩ |
    ⟨t, r, args, todo, hi, hmet⟩
  · exact .inl (by rw [hsame])
  · exact .inl (by rw [hwaits]; rfl)
  · rw [hmet]
    cases hl : u.scan.pool.lookFrom gate r free with
    | accepted =>
      refine .inr ⟨fun hrefused => ?_, ⟨i, r, args, ending⟩, rfl, rfl, ?_, rfl⟩
      · rw [Pool.lookFrom_eq_refused.mpr hrefused] at hl
        cases hl
      · simp [Scan.nextRead?, hi]
    | refused | skipped | pending => exact .inl rfl

end Logs

/-- What a step about one supplier leaves of the scan. -/
structure About (i : Nat) (u v : Survey) : Prop where
  project : v.scan.project = u.scan.project
  types : v.scan.suppliers.map (·.type) = u.scan.suppliers.map (·.type)
  others : ∀ j, j ≠ i → v.scan.suppliers[j]? = u.scan.suppliers[j]?
  sent : ∃ more, v.log.sent = u.log.sent ++ more ∧ ∀ x ∈ more, x.1 = i
  opened : ∀ j, j ≠ i → (j ∈ v.log.opened ↔ j ∈ u.log.opened)

namespace About

theorem trans (h : About i u v) (h' : About i v w) : About i u w where
  project := h'.project.trans h.project
  types := h'.types.trans h.types
  others j hj := (h'.others j hj).trans (h.others j hj)
  sent := by
    obtain ⟨more, hmore, hi⟩ := h.sent
    obtain ⟨rest, hrest, hi'⟩ := h'.sent
    refine ⟨more ++ rest, by rw [hrest, hmore, List.append_assoc], fun x hx => ?_⟩
    exact (List.mem_append.mp hx).elim (hi x) (hi' x)
  opened j hj := (h'.opened j hj).trans (h.opened j hj)

/-- A step that is about no supplier and sends nothing. -/
theorem of_eq (i : Nat) (hproject : v.scan.project = u.scan.project)
    (hsuppliers : v.scan.suppliers = u.scan.suppliers) (hsent : v.log.sent = u.log.sent)
    (hopened : v.log.opened = u.log.opened) : About i u v where
  project := hproject
  types := by rw [hsuppliers]
  others _ _ := by rw [hsuppliers]
  sent := ⟨[], by simp [hsent]⟩
  opened _ _ := by rw [hopened]

theorem refl (i : Nat) (u : Survey) : About i u u := .of_eq i rfl rfl rfl rfl

theorem setProgress (i : Nat) (progress : Progress) (u : Survey) :
    About i u (u.setProgress i progress) where
  project := rfl
  types := map_modify_of_eq (f := fun p : Supplier => { p with progress }) (g := Supplier.type)
    (fun _ => rfl) u.scan.suppliers i
  others j hj := by simp [Survey.setProgress, Scan.setProgress, Ne.symm hj]
  sent := ⟨[], by simp⟩
  opened _ _ := .rfl

theorem hear (i : Nat) (x : Exchange) (u : Survey) : About i u (u.hear i x) :=
  .of_eq i rfl rfl rfl rfl

theorem act (i : Nat) (m : Pool.Act State) (u : Survey) : About i u (u.act m) :=
  .of_eq i rfl rfl rfl rfl

theorem begin (i : Nat) (b : Read) (u : Survey) : About i u (u.begin b) :=
  .of_eq i rfl rfl rfl rfl

theorem openRunner (i : Nat) (u : Survey) : About i u (u.openRunner i) where
  project := rfl
  types := rfl
  others _ _ := rfl
  sent := ⟨[], by simp [Scan.Log.openRunner, Scan.Log.note]⟩
  opened j hj := by simp [Scan.Log.openRunner, hj]

theorem send (i : Nat) (type : String) (alert? : Option Alert) (u : Survey) :
    About i u (u.send i type alert?) where
  project := rfl
  types := rfl
  others _ _ := rfl
  sent := ⟨_, rfl, by simp⟩
  opened _ _ := .rfl

end About

theorem about_listed (i : Nat) (t : ResourceType) (call : ListRequest × Option String)
    (page : Except Error (Page Json)) (l : Listing) (u : Survey) :
    About i u (u.listed i t call page l) := by
  have hheard : About i u (u.hear i (call, page)) := .hear i _ u
  unfold listed
  split
  · exact (hheard.trans (.openRunner i _)).trans (.setProgress i _ _)
  · exact (hheard.trans (.send i _ _ _)).trans (.setProgress i _ _)
  · exact hheard.trans (.setProgress i _ _)

theorem about_met (i r : Nat) (args : ReadArgs) (todo : List ReadArgs) (ending : Ending State)
    (look : Pool.Look) (u : Survey) : About i u (u.met i r args todo ending look) := by
  cases look with
  | refused => exact (About.act i _ u).trans (.setProgress i _ _)
  | skipped => exact .setProgress i _ u
  | accepted => exact (About.begin i _ u).trans (.setProgress i _ _)
  | pending => exact .refl i u

theorem about_waited (i : Nat) (t : ResourceType) (r : Nat)
    (outcome? : Option (Except Error (List State))) (u : Survey) :
    About i u (u.waited i t r outcome?) := by
  have hacted : About i u (u.act (.await r)) := .act i _ u
  unfold waited
  split
  · exact hacted
  · exact (hacted.trans (.send i _ _ _)).trans (.setProgress i _ _)
  · exact hacted.trans (.setProgress i _ _)

theorem about_answer (i : Nat) (page : Except Error (Page Json)) (u : Survey) :
    About i u (u.take (.answer i page)) := by
  rcases answer_cases i page u with ⟨_, hsame⟩ | ⟨t, l, call, _, _, _, hlisted⟩
  · rw [hsame]
    exact .refl i u
  · rw [hlisted]
    exact about_listed i t call page _ u

theorem about_submit (i : Nat) (gate : Gate) (free : Bool) (ending : Ending State) (u : Survey) :
    About i u (u.take (.submit i gate free ending)) := by
  rcases submit_cases i gate free ending u with hsame | ⟨t, r, _, hwaits⟩ |
    ⟨t, r, args, todo, _, hmet⟩
  · rw [hsame]
    exact .refl i u
  · rw [hwaits]
    exact (About.act i _ u).trans (.setProgress i _ _)
  · rw [hmet]
    exact about_met i r args todo ending _ u

theorem about_await (i : Nat) (u : Survey) : About i u (u.take (.await i)) := by
  rcases await_cases i u with hsame | ⟨t, r, _, hwaited⟩
  · rw [hsame]
    exact .refl i u
  · rw [hwaited]
    exact about_waited i t r _ u

end Survey

end CloudInventory
