import CloudInventory.Proofs.Pool.Errors
import CloudInventory.Proofs.Scan.Sound
import CloudInventory.Proofs.Scan.Steps

/-! A scan under a cancelled pool beside the same scan without the cancellation. Step by step its
suppliers either stand where their twins stand, or are on their way to end with the cancellation;
the alerts are those of the twin, less what the cancelled suppliers would have sent. -/

namespace CloudInventory

namespace Survey

variable {project : String} {types : List ResourceType} {limit : Nat} {alerts : Alerts}
  {u u' v v' : Survey} {i j : Nat} {t : ResourceType} {passed passed' : List Nat}

theorem supplier_setProgress {w : Survey} {old : Progress}
    (hs : w.scan.suppliers = u.scan.suppliers) (hi : u.scan.suppliers[i]? = some ⟨t, old⟩)
    (new : Progress) :
    (w.setProgress i new).scan.suppliers[i]? = some ⟨t, new⟩ := by
  simp [setProgress, Scan.setProgress, hs, hi]

/-- Whether a supplier has ended with the cancellation. -/
def gone (i : Nat) (u : Survey) : Bool :=
  match u.scan.suppliers[i]? with
  | some ⟨_, .finished (.error .cancelled)⟩ => true
  | _ => false

theorem gone_iff :
    u.gone i = true ↔ ∃ t, u.scan.suppliers[i]? = some ⟨t, .finished (.error .cancelled)⟩ := by
  unfold gone
  split
  · exact iff_of_true rfl ⟨_, ‹_›⟩
  · rename_i hne
    exact iff_of_false Bool.false_ne_true fun ⟨t, ht⟩ => hne t ht

theorem gone_eq_false {progress : Progress} (hi : u.scan.suppliers[i]? = some ⟨t, progress⟩)
    (hne : progress ≠ .finished (.error .cancelled)) : u.gone i = false := by
  refine Bool.eq_false_iff.mpr fun hgone => ?_
  obtain ⟨_, ht⟩ := gone_iff.mp hgone
  rw [hi, Option.some.injEq, Supplier.mk.injEq] at ht
  exact hne ht.2

/-- Where a supplier stands under the cancellation, and where without it. One that has passed its
look at the cancellation has the same reads before it. -/
inductive Twin (passed : Prop) : Progress → Progress → Prop
  | listing (l) : Twin passed (.listing l) (.listing l)
  | submitting {r r' todo todo'} : (passed → todo' = todo) →
      Twin passed (.submitting r todo) (.submitting r' todo')
  | slower {r r' todo} : Twin passed (.waiting r) (.submitting r' todo)
  | waiting {r r'} : Twin passed (.waiting r) (.waiting r')
  | finished (result) : Twin passed (.finished result) (.finished result)
  | gone (progress) : Twin passed (.finished (.error .cancelled)) progress

namespace Twin

variable {p q : Prop} {progress progress' : Progress}

theorem mono (h : Twin p progress progress') (hpq : q → p) : Twin q progress progress' := by
  cases h with
  | listing l => exact .listing l
  | submitting htodo => exact .submitting fun hq => htodo (hpq hq)
  | slower => exact .slower
  | waiting => exact .waiting
  | finished result => exact .finished result
  | gone => exact .gone _

theorem refl (p : Prop) (progress : Progress) : Twin p progress progress := by
  cases progress with
  | listing l => exact .listing l
  | submitting r todo => exact .submitting fun _ => rfl
  | waiting r => exact .waiting
  | finished result => exact .finished result

theorem result? (t t' : ResourceType) (h : Twin p progress progress') :
    (⟨t, progress⟩ : Supplier).result? = some (.error .cancelled) ∨
      (⟨t', progress'⟩ : Supplier).result? = (⟨t, progress⟩ : Supplier).result? := by
  cases h with
  | gone => exact .inl rfl
  | _ => exact .inr rfl

end Twin

theorem Placed.sentBy_of_open {progress : Progress} (h : Placed project u i t progress)
    (hopen : ∀ result, progress ≠ .finished result) : u.log.sentBy i = [] := by
  cases h with
  | listing _ _ _ hsent | submitting _ _ _ hsent | waiting _ _ _ hsent => exact hsent
  | unlisted | refused | gave_up | settled => exact absurd rfl (hopen _)

theorem alertsOf_of_error {e d : Error} {alert? : Option Alert}
    (h : resultOf d alert? = .error e) : alertsOf t alert? = [] := by
  cases alert? with
  | none => rfl
  | some alert => cases h

theorem Placed.sentBy_of_error {e : Error} (h : Placed project u i t (.finished (.error e))) :
    u.log.sentBy i = [] := by
  generalize hres : (Except.error e : Except Error (List Resource)) = result at h
  cases h with
  | unlisted _ _ hsent | gave_up _ _ hsent => rw [hsent, alertsOf_of_error hres.symm]
  | refused _ _ hsent | settled _ _ hsent => exact hsent

theorem Sound.sentBy_of_gone (h : Sound project types limit alerts u) (hgone : u.gone i = true) :
    u.log.sentBy i = [] := by
  obtain ⟨t, hi⟩ := gone_iff.mp hgone
  exact (h.placed i _ hi).sentBy_of_error

theorem About.sent_eq (h : About i u u') (hsent : u'.log.sentBy i = []) :
    u'.log.sent = u.log.sent := by
  obtain ⟨more, hmore, hown⟩ := h.sent
  have hnil : more = [] := by
    refine List.eq_nil_iff_forall_not_mem.mpr fun x hx => ?_
    have hmem : x.2 ∈ u'.log.sentBy x.1 := mem_ownedBy (hmore ▸ List.mem_append_right _ hx)
    rw [hown x hx, hsent] at hmem
    exact absurd hmem List.not_mem_nil
  rw [hmore, hnil, List.append_nil]

theorem About.gone_eq (h : About i u u') (hj : j ≠ i) : u'.gone j = u.gone j := by
  simp only [gone, h.others j hj]

section Waits

theorem ofReading?_cancelled (type : String) (policy : ForbiddenRead) :
    Alert.ofReading? .cancelled type policy = none :=
  if_neg fun h => absurd h.2 (by decide)

/-- The wait of a supplier finds the cancellation first. -/
theorem Sound.gone_await (h : Sound project types limit alerts u)
    (hc : u.scan.pool.cancelled = true) {r : Nat}
    (hi : u.scan.suppliers[i]? = some ⟨t, .waiting r⟩) : (u.take (.await i)).gone i = true := by
  have hplaced : Placed project u i t (.waiting r) := h.placed i _ hi
  cases hplaced with
  | waiting _ hphase =>
    rw [take_await hi, Pool.settled?_await_of_cancelled hc hphase, gone_iff]
    simp only [waited, ofReading?_cancelled]
    exact ⟨t, supplier_setProgress rfl hi _⟩

end Waits

section Submissions

variable {r : Nat} {todo : List ReadArgs}

theorem met_open {args : ReadArgs} (ending : Ending State)
    (hi : u.scan.suppliers[i]? = some ⟨t, .submitting r (args :: todo)⟩)
    {look : Pool.Look} (hl : look ≠ .refused) :
    (∃ rest, (u.met i r args todo ending look).scan.suppliers[i]? =
      some ⟨t, .submitting r rest⟩) ∧ (u.met i r args todo ending look).log.sent = u.log.sent := by
  cases look with
  | refused => exact absurd rfl hl
  | skipped | accepted => exact ⟨⟨todo, supplier_setProgress rfl hi _⟩, rfl⟩
  | pending => exact ⟨⟨_, hi⟩, rfl⟩

/-- A submission under an uncancelled pool goes on or begins to wait. -/
theorem submit_open (gate : Gate) (free : Bool) (ending : Ending State)
    (hc : u.scan.pool.cancelled = false)
    (hi : u.scan.suppliers[i]? = some ⟨t, .submitting r todo⟩) :
    ((∃ rest, (u.take (.submit i gate free ending)).scan.suppliers[i]? =
        some ⟨t, .submitting r rest⟩) ∨
      todo = [] ∧ (u.take (.submit i gate free ending)).scan.suppliers[i]? =
        some ⟨t, .waiting r⟩) ∧
    (u.take (.submit i gate free ending)).log.sent = u.log.sent := by
  cases todo with
  | nil =>
    rw [take_submit_nil hi]
    exact ⟨.inr ⟨rfl, supplier_setProgress rfl hi _⟩, rfl⟩
  | cons args todo =>
    have hl : u.scan.pool.lookFrom gate r free ≠ .refused := fun h => by
      simp [(Pool.lookFrom_eq_refused.mp h).2] at hc
    rw [take_submit hi]
    exact (met_open ending hi hl).imp_left .inl

end Submissions

/-- A scan under a cancelled pool and its twin, `passed` being the suppliers with a submission
that is past its look at the cancellation. -/
structure Paired (passed : List Nat) (u v : Survey) : Prop where
  project : v.scan.project = u.scan.project
  types : v.scan.suppliers.map (·.type) = u.scan.suppliers.map (·.type)
  twin : ∀ (i : Nat) p q, u.scan.suppliers[i]? = some p → v.scan.suppliers[i]? = some q →
    Twin (i ∈ passed) p.progress q.progress
  sent : u.log.sent = v.log.sent.filter fun x => !u.gone x.1

namespace Paired

theorem mono (h : Paired passed u v) (hp : ∀ j ∈ passed', j ∈ passed) : Paired passed' u v :=
  { h with twin := fun i p q hi hj => (h.twin i p q hi hj).mono (hp i) }

theorem of_same (h : Paired passed u v) (hu : u'.scan.suppliers = u.scan.suppliers)
    (hp : u'.scan.project = u.scan.project) (hs : u'.log.sent = u.log.sent) :
    Paired passed u' v where
  project := h.project.trans hp.symm
  types := by rw [hu, h.types]
  twin := by rw [hu]; exact h.twin
  sent := by
    have hgone : ∀ i, u'.gone i = u.gone i := fun i => by simp only [gone, hu]
    simp only [hs, h.sent, hgone]

theorem of_same_twin (h : Paired passed u v) (hv : v'.scan.suppliers = v.scan.suppliers)
    (hp : v'.scan.project = v.scan.project) (hs : v'.log.sent = v.log.sent) :
    Paired passed u v' where
  project := hp.trans h.project
  types := by rw [hv, h.types]
  twin := by rw [hv]; exact h.twin
  sent := by rw [hs, h.sent]

theorem supplier (h : Paired passed u v) {progress : Progress}
    (hi : u.scan.suppliers[i]? = some ⟨t, progress⟩) :
    ∃ progress', v.scan.suppliers[i]? = some ⟨t, progress'⟩ ∧
      Twin (i ∈ passed) progress progress' := by
  have htype : (v.scan.suppliers.map (·.type))[i]? = some t := by
    rw [h.types, List.getElem?_map, hi]
    rfl
  rw [List.getElem?_map, Option.map_eq_some_iff] at htype
  obtain ⟨⟨_, progress'⟩, hj, rfl⟩ := htype
  exact ⟨progress', hj, h.twin i _ _ hi hj⟩

theorem supplier_none (h : Paired passed u v) (hi : u.scan.suppliers[i]? = none) :
    v.scan.suppliers[i]? = none := by
  have hlen := congrArg List.length h.types
  simp only [List.length_map] at hlen
  rw [List.getElem?_eq_none_iff] at hi ⊢
  omega

section Sent

/-- Of a supplier that goes, nothing that its twin has sent or sends remains. -/
theorem filter_of_gone (hu : About i u u') (hv : About i v v') (hgone : u'.gone i = true)
    (hnone : u.gone i = true ∨ v.log.sentBy i = []) :
    (v'.log.sent.filter fun x => !u'.gone x.1) = v.log.sent.filter fun x => !u.gone x.1 := by
  obtain ⟨more, hmore, hown⟩ := hv.sent
  have hlast : more.filter (fun x => !u'.gone x.1) = [] := by
    refine List.filter_eq_nil_iff.mpr fun x hx => ?_
    simp [hown x hx, hgone]
  have hrest : v.log.sent.filter (fun x => !u'.gone x.1) =
      v.log.sent.filter fun x => !u.gone x.1 := by
    refine List.filter_congr fun x hx => ?_
    by_cases hi : x.1 = i
    · rcases hnone with hold | hnil
      · rw [hi, hgone, hold]
      · have hmem : x.2 ∈ v.log.sentBy x.1 := mem_ownedBy hx
        rw [hi, hnil] at hmem
        exact absurd hmem List.not_mem_nil
    · rw [hu.gone_eq hi]
  rw [hmore, List.filter_append, hlast, hrest, List.append_nil]

/-- Of a supplier that does not go, all that its twin sends remains. -/
theorem filter_of_stays (hu : About i u u') (hold : u.gone i = false) (hnew : u'.gone i = false)
    {more : List (Nat × (String × Alert))} (hown : ∀ x ∈ more, x.1 = i) :
    ((v.log.sent ++ more).filter fun x => !u'.gone x.1) =
      (v.log.sent.filter fun x => !u.gone x.1) ++ more := by
  have hall : ∀ j, u'.gone j = u.gone j := by
    intro j
    by_cases hj : j = i
    · rw [hj, hnew, hold]
    · exact hu.gone_eq hj
  have hlast : more.filter (fun x => !u.gone x.1) = more := by
    refine List.filter_eq_self.mpr fun x hx => ?_
    simp [hown x hx, hold]
  simp only [hall, List.filter_append, hlast]

end Sent

/-- What a step about one supplier sends, on either side. -/
def Sends (i : Nat) (u u' v v' : Survey) : Prop :=
  (u'.gone i = true ∧ u'.log.sent = u.log.sent ∧ (u.gone i = true ∨ v.log.sentBy i = [])) ∨
    (u.gone i = false ∧ u'.gone i = false ∧
      ∃ more, u'.log.sent = u.log.sent ++ more ∧ v'.log.sent = v.log.sent ++ more)

theorem step (h : Paired passed u v) (hu : About i u u') (hv : About i v v')
    (htwin : ∀ p q, u'.scan.suppliers[i]? = some p → v'.scan.suppliers[i]? = some q →
      Twin (i ∈ passed') p.progress q.progress)
    (hsends : Sends i u u' v v') (hp : ∀ j ∈ passed', j ∈ passed) : Paired passed' u' v' where
  project := (hv.project.trans h.project).trans hu.project.symm
  types := (hv.types.trans h.types).trans hu.types.symm
  twin j p q hj hj' := by
    by_cases hij : j = i
    · subst hij
      exact htwin p q hj hj'
    · rw [hu.others j hij] at hj
      rw [hv.others j hij] at hj'
      exact (h.twin j p q hj hj').mono (hp j)
  sent := by
    rcases hsends with ⟨hgone, hsame, hnone⟩ | ⟨hold, hnew, more, hsent, hsent'⟩
    · rw [hsame, h.sent, filter_of_gone hu hv hgone hnone]
    · obtain ⟨more', hmore, hown⟩ := hv.sent
      obtain rfl : more' = more := List.append_cancel_left (hmore.symm.trans hsent')
      rw [hsent, h.sent, hmore, filter_of_stays hu hold hnew hown]

/-- A supplier that is gone stays so, whatever its twin does. -/
theorem of_gone (h : Paired passed u v) (hgone : u.gone i = true) (hv : About i v v') :
    Paired passed u v' := by
  obtain ⟨t, hi⟩ := gone_iff.mp hgone
  refine h.step (.refl i u) hv (fun p q hp _ => ?_) (.inl ⟨hgone, rfl, .inl hgone⟩) fun _ => id
  obtain rfl := Option.some.inj (hi.symm.trans hp)
  exact .gone _

/-- A step that makes a supplier give up under the cancellation. -/
theorem of_goes (h : Paired passed u v) (hu : About i u u')
    (hs : Sound project types limit alerts u') (hv : About i v v') (hgone : u'.gone i = true)
    (hnone : u.gone i = true ∨ v.log.sentBy i = []) (hp : ∀ j ∈ passed', j ∈ passed) :
    Paired passed' u' v' := by
  refine h.step hu hv (fun p q hi _ => ?_)
    (.inl ⟨hgone, hu.sent_eq (hs.sentBy_of_gone hgone), hnone⟩) hp
  obtain ⟨t, ht⟩ := gone_iff.mp hgone
  obtain rfl := Option.some.inj (ht.symm.trans hi)
  exact .gone _

section Steps

variable {old new new' : Progress} {ending : Ending State}

/-- A step that is no end, on either side. -/
theorem of_moves (h : Paired passed u v) (hu : About i u u') (hv : About i v v')
    (hi : u.scan.suppliers[i]? = some ⟨t, old⟩) (hold : old ≠ .finished (.error .cancelled))
    (hi' : u'.scan.suppliers[i]? = some ⟨t, new⟩) (hnew : new ≠ .finished (.error .cancelled))
    (hj : v'.scan.suppliers[i]? = some ⟨t, new'⟩) (htwin : Twin (i ∈ passed') new new')
    (hsent : u'.log.sent = u.log.sent) (hsent' : v'.log.sent = v.log.sent)
    (hp : ∀ j ∈ passed', j ∈ passed) : Paired passed' u' v' := by
  refine h.step hu hv (fun p q hp hq => ?_)
    (.inr ⟨gone_eq_false hi hold, gone_eq_false hi' hnew, [], by simp [hsent], by simp [hsent']⟩) hp
  obtain rfl := Option.some.inj (hi'.symm.trans hp)
  obtain rfl := Option.some.inj (hj.symm.trans hq)
  exact htwin

theorem listed (h : Paired passed u v) {l l' : Listing} {call : ListRequest × Option String}
    {page : Except Error (Page Json)}
    (hs : Sound project types limit alerts (u.listed i t call page l'))
    (hs' : Sound project types limit alerts v)
    (hi : u.scan.suppliers[i]? = some ⟨t, .listing l⟩)
    (hj : v.scan.suppliers[i]? = some ⟨t, .listing l⟩) :
    Paired passed (u.listed i t call page l') (v.listed i t call page l') := by
  have hu : About i u (u.listed i t call page l') := about_listed i t call page l' u
  have hv : About i v (v.listed i t call page l') := about_listed i t call page l' v
  cases l' with
  | first | below =>
    exact h.of_moves hu hv hi (by simp) (supplier_setProgress rfl hi _) (by simp)
      (supplier_setProgress rfl hj _) (.listing _) rfl rfl fun _ => id
  | done outcome =>
    cases outcome with
    | ok args =>
      exact h.of_moves hu hv hi (by simp) (supplier_setProgress rfl hi _) (by simp)
        (supplier_setProgress rfl hj _) (.submitting fun _ => rfl) rfl rfl fun _ => id
    | error f =>
      by_cases hres : resultOf f.error (Alert.ofListing? f.error t.name f.listed) =
          .error .cancelled
      · have hgone : (u.listed i t call page (.done (.error f))).gone i = true :=
          gone_iff.mpr ⟨t, hres ▸ supplier_setProgress rfl hi _⟩
        have hnone := (hs'.placed i _ hj).sentBy_of_open (by simp)
        exact h.of_goes hu hs hv hgone (.inr hnone) fun _ => id
      · have hi' : (u.listed i t call page (.done (.error f))).scan.suppliers[i]? = _ :=
          supplier_setProgress rfl hi _
        have hj' : (v.listed i t call page (.done (.error f))).scan.suppliers[i]? = _ :=
          supplier_setProgress rfl hj _
        refine h.step hu hv (fun p q hp hq => ?_) (.inr ⟨gone_eq_false hi (by simp),
          gone_eq_false hi' (by simpa using hres), _, rfl, rfl⟩) fun _ => id
        obtain rfl := Option.some.inj (hi'.symm.trans hp)
        obtain rfl := Option.some.inj (hj'.symm.trans hq)
        exact .finished _

theorem answer (h : Paired passed u v) (hs : Sound project types limit alerts u)
    (hs' : Sound project types limit alerts v) (i : Nat) (page : Except Error (Page Json)) :
    Paired passed (u.take (.answer i page)) (v.take (.answer i page)) := by
  have hnext := hs.change (change_answer i page u)
  cases hi : u.scan.suppliers[i]? with
  | none =>
    rw [take_answer_idle (by simp [Scan.request?, hi]),
      take_answer_idle (by simp [Scan.request?, h.supplier_none hi])]
    exact h
  | some p =>
    obtain ⟨t, progress⟩ := p
    obtain ⟨progress', hj, htwin⟩ := h.supplier hi
    cases htwin with
    | listing l =>
      cases hcall : l.request? t u.scan.project with
      | none =>
        rw [take_answer_idle (by simp [Scan.request?, hi, hcall]),
          take_answer_idle (by simp [Scan.request?, hj, h.project, hcall])]
        exact h
      | some call =>
        rw [take_answer hi hcall] at hnext ⊢
        rw [take_answer hj (h.project ▸ hcall)]
        exact h.listed hnext hs' hi hj
    | submitting | slower | waiting | finished =>
      rw [take_answer_of_ne hi (by simp), take_answer_of_ne hj (by simp)]
      exact h
    | gone =>
      rw [take_answer_of_ne hi (by simp)]
      exact h.of_gone (gone_iff.mpr ⟨t, hi⟩) (about_answer i page v)

theorem await (h : Paired passed u v) (hs : Sound project types limit alerts u)
    (hs' : Sound project types limit alerts v) (hc : u.scan.pool.cancelled = true) (i : Nat) :
    Paired passed (u.take (.await i)) (v.take (.await i)) := by
  cases hi : u.scan.suppliers[i]? with
  | none =>
    rw [take_await_idle (by simp [hi]), take_await_idle (by simp [h.supplier_none hi])]
    exact h
  | some p =>
    obtain ⟨t, progress⟩ := p
    obtain ⟨progress', hj, htwin⟩ := h.supplier hi
    cases htwin with
    | listing | submitting | finished =>
      rw [take_await_of_ne hi (by simp), take_await_of_ne hj (by simp)]
      exact h
    | slower | waiting =>
      have hnone := (hs'.placed i _ hj).sentBy_of_open (by simp)
      exact h.of_goes (about_await i u) (hs.change (change_await i u)) (about_await i v)
        (hs.gone_await hc hi) (.inr hnone) fun _ => id
    | gone =>
      rw [take_await_of_ne hi (by simp)]
      exact h.of_gone (gone_iff.mpr ⟨t, hi⟩) (about_await i v)

section Submit

variable {r r' : Nat} {args : ReadArgs} {todo todo' : List ReadArgs}

/-- A supplier that waits, and one behind it that submits or waits as well. -/
theorem of_waits (h : Paired passed u v) (hu : About i u u') (hv : About i v v')
    (hi : u.scan.suppliers[i]? = some ⟨t, old⟩) (hold : old ≠ .finished (.error .cancelled))
    (hi' : u'.scan.suppliers[i]? = some ⟨t, .waiting r⟩) (hsent : u'.log.sent = u.log.sent)
    (hj : (∃ rest, v'.scan.suppliers[i]? = some ⟨t, .submitting r' rest⟩) ∨
      v'.scan.suppliers[i]? = some ⟨t, .waiting r'⟩)
    (hsent' : v'.log.sent = v.log.sent) (hp : ∀ j ∈ passed', j ∈ passed) :
    Paired passed' u' v' := by
  rcases hj with ⟨rest, hj⟩ | hj
  · exact h.of_moves hu hv hi hold hi' (by simp) hj .slower hsent hsent' hp
  · exact h.of_moves hu hv hi hold hi' (by simp) hj .waiting hsent hsent' hp

/-- A submission is refused, unless it has passed its look at the cancellation; then its twin has
the same reads left. -/
theorem met (h : Paired passed u v) {look : Pool.Look}
    (hs : Sound project types limit alerts (u.met i r args todo ending look))
    (hs' : Sound project types limit alerts v) (hv : About i v v')
    (hi : u.scan.suppliers[i]? = some ⟨t, .submitting r (args :: todo)⟩)
    (hj : v.scan.suppliers[i]? = some ⟨t, .submitting r' todo'⟩)
    (hopen : look ≠ .refused → ∃ rest, v'.scan.suppliers[i]? = some ⟨t, .submitting r' rest⟩)
    (hsent' : v'.log.sent = v.log.sent) (hp : ∀ j ∈ passed', j ∈ passed) (hnot : i ∉ passed') :
    Paired passed' (u.met i r args todo ending look) v' := by
  have hu : About i u (u.met i r args todo ending look) := about_met i r args todo ending look u
  by_cases hl : look = .refused
  · subst hl
    have hgone : (u.met i r args todo ending .refused).gone i = true :=
      gone_iff.mpr ⟨t, supplier_setProgress rfl hi _⟩
    exact h.of_goes hu hs hv hgone (.inr ((hs'.placed i _ hj).sentBy_of_open (by simp))) hp
  · obtain ⟨⟨rest, hi'⟩, hsent⟩ := met_open ending hi hl
    obtain ⟨rest', hj'⟩ := hopen hl
    exact h.of_moves hu hv hi (by simp) hi' (by simp) hj'
      (.submitting fun hin => absurd hin hnot) hsent hsent' hp

/-- A submission that has not passed its look at the cancellation begins with that look. -/
theorem submit (h : Paired passed u v) {gate : Gate} (gate' : Gate) {free : Bool} (free' : Bool)
    (hs : Sound project types limit alerts (u.take (.submit i gate free ending)))
    (hs' : Sound project types limit alerts v) (hc : u.scan.pool.cancelled = true)
    (hc' : v.scan.pool.cancelled = false) (hgate : i ∉ passed → gate = .scope) :
    Paired (passed.filter (· ≠ i)) (u.take (.submit i gate free ending))
      (v.take (.submit i gate' free' ending)) := by
  have hless : ∀ j ∈ passed.filter (· ≠ i), j ∈ passed := fun j hj => List.mem_of_mem_filter hj
  have hu := about_submit i gate free ending u
  have hv := about_submit i gate' free' ending v
  cases hi : u.scan.suppliers[i]? with
  | none =>
    rw [take_submit_idle (by simp [hi]), take_submit_idle (by simp [h.supplier_none hi])]
    exact h.mono hless
  | some p =>
    obtain ⟨t, progress⟩ := p
    obtain ⟨progress', hj, htwin⟩ := h.supplier hi
    cases htwin with
    | listing | waiting | finished =>
      rw [take_submit_of_ne hi (by simp), take_submit_of_ne hj (by simp)]
      exact h.mono hless
    | slower =>
      obtain ⟨hnew, hsent'⟩ := submit_open gate' free' ending hc' hj
      rw [take_submit_of_ne hi (by simp)] at hu ⊢
      exact h.of_waits hu hv hi (by simp) hi rfl (hnew.imp_right (·.2)) hsent' hless
    | @submitting r _ todo todo' htodo =>
      obtain ⟨hnew, hsent'⟩ := submit_open gate' free' ending hc' hj
      cases todo with
      | nil =>
        rw [take_submit_nil hi] at hu ⊢
        exact h.of_waits hu hv hi (by simp) (supplier_setProgress rfl hi _) rfl
          (hnew.imp_right (·.2)) hsent' hless
      | cons args todo =>
        rw [take_submit hi] at hs ⊢
        refine h.met hs hs' hv hi hj (fun hl => hnew.resolve_right fun hnil => ?_) hsent' hless
          (by simp)
        have hpassed : i ∈ passed := by
          by_contra hnot
          exact hl (Pool.lookFrom_eq_refused.mpr ⟨hgate hnot, hc⟩)
        rw [htodo hpassed] at hnil
        cases hnil.1
    | gone =>
      rw [take_submit_of_ne hi (by simp)]
      exact (h.of_gone (gone_iff.mpr ⟨t, hi⟩) hv).mono hless

end Submit

end Steps

end Paired

end Survey

end CloudInventory
