import CloudInventory.Proofs.Listing.Sources
import CloudInventory.Proofs.Pool.Errors
import CloudInventory.Proofs.Scan.Completeness
import CloudInventory.Proofs.Scan.Progress
import CloudInventory.Proofs.Scan.Steps

/-! A scan whose list calls and reads are answered by a source. Where the source is regular, no
supplier fails, and what one brings is the same in every such scan, up to order. -/

namespace CloudInventory

/-- How the next read of a supplier ends. -/
def Source.ending (source : Source) (i : Nat) (s : Scan) : Ending State :=
  ((s.nextRead? i).map fun args => .ofExcept (source.state args)).getD (.failure .cancelled)

namespace Survey

open Listing (Heard)

variable {project : String} {types : List ResourceType} {limit : Nat} {alerts : Alerts}
  {source : Source} {u v : Survey} {i r : Nat} {t : ResourceType}

theorem Reached.told (h : Reached project types limit alerts u) :
    Pool.Told u.log.pool u.scan.pool := by
  induction h with
  | refl => exact ⟨by simp [start, Scan.start, Pool.new]⟩
  | @tail v w hv hstep ih =>
    obtain ⟨m, hm, rfl⟩ := hstep
    have hs : Sound project types limit alerts v := Reached.sound hv
    rcases change_pool (change_take hm) with ⟨hpool, hlog⟩ | ⟨a, hpool, hlog⟩
    · rw [hpool, hlog]
      exact ih
    · rw [hpool, hlog]
      exact ih.act hs.tallies.pool a

/-- All that a scan has heard and begun is answered by the source. -/
structure Sourced (source : Source) (u : Survey) : Prop where
  heard : ∀ x ∈ u.log.heard, x.2.2 = source.page x.2.1.1 x.2.1.2
  begun : ∀ b ∈ u.log.begun, b.ending = .ofExcept (source.state b.args)

/-- A move that has its answer from the source. -/
def Move.IsFrom (source : Source) (u : Survey) : Move → Prop
  | .answer i page => ∀ call, u.scan.request? i = some call → page = source.page call.1 call.2
  | .submit i _ _ ending => ∀ args, u.scan.nextRead? i = some args →
      ending = .ofExcept (source.state args)
  | _ => True

theorem isFrom_ending (source : Source) (i : Nat) (gate : Gate) (free : Bool) (u : Survey) :
    (Move.submit i gate free (source.ending i u.scan)).IsFrom source u := by
  intro args hargs
  simp only [Source.ending, hargs]
  rfl

theorem Sourced.take (h : Sourced source u) {m : Move} (hm : m.IsFrom source u) :
    Sourced source (u.take m) where
  heard := by
    by_cases hanswer : m.IsAnswer
    · cases m with
      | answer i page =>
        cases hreq : u.scan.request? i with
        | none =>
          rw [take_answer_idle hreq]
          exact h.heard
        | some call =>
          rw [heard_answer hreq page]
          intro x hx
          rcases List.mem_append.mp hx with hx | hx
          · exact h.heard x hx
          · obtain rfl := List.mem_singleton.mp hx
            exact hm call hreq
      | submit | await | advance | cancel => exact hanswer.elim
    · rw [heard_take hanswer]
      exact h.heard
  begun := by
    by_cases hsubmit : ∃ i gate free ending, m = .submit i gate free ending
    · obtain ⟨i, gate, free, ending, rfl⟩ := hsubmit
      rcases begun_submit i gate free ending u with hsame | ⟨_, b, _, rfl, hnext, hbegun⟩
      · rw [hsame]
        exact h.begun
      · rw [hbegun]
        intro c hc
        rcases List.mem_append.mp hc with hc | hc
        · exact h.begun c hc
        · obtain rfl := List.mem_singleton.mp hc
          exact hm c.args hnext
    · rw [begun_take fun i gate free ending he => hsubmit ⟨i, gate, free, ending, he⟩]
      exact h.begun

theorem Sourced.heardBy (h : Sourced source u) (i : Nat) :
    ∀ x ∈ u.log.heardBy i, x.2 = source.page x.1.1 x.1.2 := by
  intro x hx
  obtain ⟨y, hy, hown⟩ := List.mem_filterMap.mp hx
  split at hown
  · obtain rfl := Option.some.inj hown
    exact h.heard y hy
  · cases hown

/-- What a supplier brings from a source: its resources, in some order, and its alerts. -/
inductive Brings (source : Source) (project : String) (t : ResourceType) :
    List Resource → List (String × Alert) → Prop
  | refused {n f} : source.Ends t project n Listing.start (.error f) →
      Brings source project t [] (alertsOf t (Alert.ofListing? f.error t.name f.listed))
  | found {n args all resources} : source.Ends t project n Listing.start (.ok args) →
      args.Forall₂ (source.Reads t) all → resources.Perm (all.filter Resource.isConfigured) →
      Brings source project t resources []

theorem Brings.unique {found found' : List Resource} {sent sent' : List (String × Alert)}
    (h : Brings source project t found sent) (h' : Brings source project t found' sent') :
    found.Perm found' ∧ sent = sent' := by
  cases h with
  | refused hends =>
    cases h' with
    | refused hends' =>
      obtain ⟨_, hf⟩ := hends.unique hends'
      obtain rfl := Except.error.inj hf
      exact ⟨.refl _, rfl⟩
    | found hends' => cases (hends.unique hends').2
  | found hends hall hperm =>
    cases h' with
    | refused hends' => cases (hends.unique hends').2
    | found hends' hall' hperm' =>
      obtain rfl := Except.ok.inj (hends.unique hends').2
      have hreads : Relator.RightUnique (source.Reads t) := by
        rintro a b c ⟨s, hs, hb⟩ ⟨s', hs', hc⟩
        obtain rfl := Except.ok.inj (hs.symm.trans hs')
        exact Except.ok.inj (hb.symm.trans hc)
      obtain rfl := List.right_unique_forall₂' hreads hall hall'
      exact ⟨hperm.trans hperm'.symm, rfl⟩

section Suppliers

variable {args : List ReadArgs} {outcome : Except ListingFailure (List ReadArgs)} {n : Nat}

theorem Sourced.outcome_eq (h : Sourced source u)
    (hends : source.Ends t project n Listing.start outcome)
    {heard : Except ListingFailure (List ReadArgs)}
    (hl : Heard t project (u.log.heardBy i) (.done heard)) : outcome = heard := by
  obtain ⟨k, hk⟩ := hends.heard hl (h.heardBy i)
  cases hk with
  | done => rfl
  | call hcall => cases hcall

/-- The reads of a regular supplier end with values of its type. -/
theorem Sourced.reads (h : Sourced source u) (hl : Listed project u i t r args)
    (hargs : ∀ a ∈ args, ∃ resource, source.Reads t a resource) {b : Read}
    (hb : b ∈ u.log.begunBy i) :
    ∃ state resource, b.ending = .value state ∧ source.state b.args = .ok state ∧
      t.readState 0 state = .ok resource := by
  obtain ⟨resource, state, hstate, hread⟩ :=
    hargs b.args (hl.begun.subset (List.mem_map_of_mem hb))
  have hending := h.begun b (List.mem_of_mem_filter hb)
  rw [hstate] at hending
  exact ⟨state, resource, hending, hstate, hread⟩

theorem Sound.no_errors (hs : Sound project types limit alerts u)
    (ht : Pool.Told u.log.pool u.scan.pool) (h : Sourced source u)
    (hc : u.scan.pool.cancelled = false) (hl : Listed project u i t r args)
    (hargs : ∀ a ∈ args, ∃ resource, source.Reads t a resource)
    {settled : Except Error (List State)}
    (hp : u.scan.pool.phase? r = some (.settled settled)) : u.log.pool.errorsOf r = [] := by
  have hperm := hs.tallies.pool.recorded_perm ht hc hp
  have hnone : (u.log.pool.acceptedBy r).filterMap (·.ending.error?) = [] := by
    refine List.filterMap_eq_nil_iff.mpr fun job hjob => ?_
    have hmem := List.mem_map_of_mem (f := Job.ending) hjob
    rw [hs.tallies.acceptedBy hl.opened] at hmem
    obtain ⟨b, hb, hending⟩ := List.mem_map.mp hmem
    obtain ⟨state, _, hvalue, _⟩ := h.reads hl hargs hb
    rw [← hending, hvalue]
    rfl
  rw [hnone] at hperm
  exact hperm.eq_nil

theorem Sound.readings_ok (hs : Sound project types limit alerts u) (h : Sourced source u)
    (hl : Listed project u i t r args)
    (hargs : ∀ a ∈ args, ∃ resource, source.Reads t a resource) {states : List State}
    (hp : u.scan.pool.phase? r = some (.settled (.ok states))) :
    ∃ resources, readings t states = .ok resources := by
  obtain ⟨_, _, hperm⟩ := hs.tallies.pool.settled_ok hp
  rw [hs.tallies.acceptedBy hl.opened] at hperm
  have hstates : ∀ s ∈ states, ∃ resource, t.readState 0 s = .ok resource := by
    intro s hmem
    have hvalue : Ending.value s ∈ (u.log.begunBy i).map (·.ending) :=
      hperm.mem_iff.mpr (List.mem_map_of_mem hmem)
    obtain ⟨b, hb, hending⟩ := List.mem_map.mp hvalue
    obtain ⟨state, resource, hstate, _, hread⟩ := h.reads hl hargs hb
    obtain rfl := Ending.value.inj (hending.symm.trans hstate)
    exact ⟨resource, hread⟩
  obtain ⟨resources, hread⟩ : ∃ resources, t.readStates states = .ok resources :=
    ResourceType.exists_readStatesFrom_iff.mpr hstates
  refine ⟨resources.filter Resource.isConfigured, ?_⟩
  simp only [readings, hread]
  rfl

theorem Sourced.reads_yields (h : Sourced source u) {reads : List Read}
    (hmem : ∀ b ∈ reads, b ∈ u.log.begun) {found : List Resource}
    (hfound : reads.Forall₂ (fun b => Yields t b.ending) found) :
    (reads.map (·.args)).Forall₂ (source.Reads t) found := by
  refine List.forall₂_map_left_iff.mpr ?_
  induction hfound with
  | nil => exact .nil
  | @cons b resource reads found hb _ ih =>
    refine .cons ?_ (ih fun c hc => hmem c (List.mem_cons_of_mem _ hc))
    obtain ⟨state, hvalue, _, hread⟩ := hb
    have hending := h.begun b (hmem b List.mem_cons_self)
    rw [hvalue] at hending
    cases hstate : source.state b.args with
    | error e => rw [hstate] at hending; cases hending
    | ok state' =>
      rw [hstate] at hending
      obtain rfl := Ending.value.inj hending
      exact ⟨state, hstate, hread 0⟩

/-- A supplier over a regular source does not fail, and brings what every other run of it brings. -/
theorem Sound.brings (hs : Sound project types limit alerts u)
    (ht : Pool.Told u.log.pool u.scan.pool) (h : Sourced source u)
    (hreg : source.Regular project t) (hc : u.scan.pool.cancelled = false)
    {result : Except Error (List Resource)}
    (hi : u.scan.suppliers[i]? = some ⟨t, .finished result⟩) :
    ∃ found, result = .ok found ∧ Brings source project t found (u.log.sentBy i) := by
  obtain ⟨n, outcome, hends, hregular⟩ := hreg.ends
  have hplaced : Placed project u i t (.finished result) := hs.placed i _ hi
  cases hplaced with
  | @unlisted f hheard _ hsent =>
    obtain rfl := h.outcome_eq hends hheard
    have halert : Alert.ofListing? f.error t.name f.listed =
        some (.listingRefused t.name f.listed) := if_pos hregular
    refine ⟨[], by rw [halert]; rfl, ?_⟩
    rw [hsent]
    exact .refused hends
  | refused _ hcancelled => simp [hc] at hcancelled
  | gave_up hl hphase =>
    obtain rfl := h.outcome_eq hends hl.heard
    have hfirst := hs.tallies.pool.settled_error hc hphase
    rw [hs.no_errors ht h hc hl hregular hphase] at hfirst
    cases hfirst
  | settled hl hphase hsent =>
    obtain rfl := h.outcome_eq hends hl.heard
    obtain ⟨resources, hread⟩ := hs.readings_ok h hl hregular hphase
    obtain ⟨all, hall, hperm⟩ := hs.readings_perm hl.opened hphase hread
    have hreads := h.reads_yields (fun b hb => List.mem_of_mem_filter hb) hall
    rw [hsent]
    exact ⟨resources, hread, .found hends hreads hperm⟩

end Suppliers

end Survey

end CloudInventory
