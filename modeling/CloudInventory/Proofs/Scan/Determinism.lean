import CloudInventory.Proofs.Scan.Consistency
import CloudInventory.Proofs.Scan.Schedules

/-! Two scans over one regular source, with any limits and in any two schedules. Every supplier
brings the same in both, up to order, and the inventory's order leaves no trace of the schedule. -/

namespace CloudInventory

namespace Survey

variable {project : String} {types : List ResourceType} {limit limit' : Nat} {alerts : Alerts}
  {source : Source} {u v : Survey} {i : Nat} {t : ResourceType}

theorem Brings.alert_unique {found : List Resource} {sent : List (String × Alert)}
    (h : Brings source project t found sent) {x y : String × Alert} (hx : x ∈ sent)
    (hy : y ∈ sent) : x = y := by
  cases h with
  | found => exact absurd hx List.not_mem_nil
  | @refused _ f =>
    cases halert : Alert.ofListing? f.error t.name f.listed with
    | none => simp [halert, alertsOf] at hx
    | some alert =>
      simp only [halert, alertsOf, Option.toList, List.map_singleton, List.mem_singleton] at hx hy
      rw [hx, hy]

/-- A survey whose suppliers have all finished, each with its results and alerts. -/
structure Brought (source : Source) (project : String) (types : List ResourceType) (u : Survey)
    (results : List (List Resource)) : Prop where
  length : results.length = types.length
  brings : ∀ i t, types[i]? = some t → ∃ found, results[i]? = some found ∧
    Brings source project t found (u.log.sentBy i)
  alerts : u.scan.alerts = sendAll u.log.sent []
  senders : ∀ x ∈ u.log.sent, (types[x.1]?).map ResourceType.name = some x.2.1

namespace Brought

variable {results results' : List (List Resource)}

theorem flatten_perm (h : Brought source project types u results)
    (h' : Brought source project types v results') : results.flatten.Perm results'.flatten := by
  refine List.Perm.flatten_congr (List.forall₂_iff_get.mpr ⟨h.length.trans h'.length.symm, ?_⟩)
  intro i hi hi'
  obtain ⟨t, ht⟩ : ∃ t, types[i]? = some t :=
    ⟨_, List.getElem?_eq_getElem (h.length ▸ hi)⟩
  obtain ⟨found, hfound, hbrings⟩ := h.brings i t ht
  obtain ⟨found', hfound', hbrings'⟩ := h'.brings i t ht
  obtain ⟨_, rfl⟩ := List.getElem?_eq_some_iff.mp hfound
  obtain ⟨_, rfl⟩ := List.getElem?_eq_some_iff.mp hfound'
  exact (hbrings.unique hbrings').1

theorem sentBy_eq (h : Brought source project types u results)
    (h' : Brought source project types v results') (i : Nat) :
    u.log.sentBy i = v.log.sentBy i := by
  cases ht : types[i]? with
  | some t =>
    obtain ⟨_, _, hbrings⟩ := h.brings i t ht
    obtain ⟨_, _, hbrings'⟩ := h'.brings i t ht
    exact (hbrings.unique hbrings').2
  | none =>
    have hnone : ∀ {w : Survey} {rs}, Brought source project types w rs → w.log.sentBy i = [] := by
      intro w rs hw
      refine ownedBy_eq_nil fun x hx hi => ?_
      have hsender := hw.senders x hx
      rw [hi, ht] at hsender
      cases hsender
    rw [hnone h, hnone h']

theorem sent_perm (h : Brought source project types u results)
    (h' : Brought source project types v results') : u.log.sent.Perm v.log.sent :=
  perm_of_ownedBy fun i => .of_eq (h.sentBy_eq h' i)

/-- Suppliers of one type send the same alert. -/
theorem alert_unique (h : Brought source project types u results) {x y : Nat × (String × Alert)}
    (hx : x ∈ u.log.sent) (hy : y ∈ u.log.sent) (hxy : x.2.1 = y.2.1) : x.2.2 = y.2.2 := by
  obtain ⟨t, ht, hname⟩ := Option.map_eq_some_iff.mp (h.senders x hx)
  obtain ⟨t', ht', hname'⟩ := Option.map_eq_some_iff.mp (h.senders y hy)
  obtain rfl := ResourceType.name_inj (hname.trans (hxy.trans hname'.symm))
  obtain ⟨_, _, hbrings⟩ := h.brings x.1 t ht
  obtain ⟨_, _, hbrings'⟩ := h.brings y.1 t ht'
  have hsent : u.log.sentBy x.1 = u.log.sentBy y.1 := (hbrings.unique hbrings').2
  have hmem : x.2 ∈ u.log.sentBy x.1 := mem_ownedBy hx
  have hmem' : y.2 ∈ u.log.sentBy x.1 := hsent ▸ mem_ownedBy hy
  exact congrArg Prod.snd (hbrings.alert_unique hmem hmem')

theorem sentFor_eq (h : Brought source project types u results)
    (h' : Brought source project types v results') (type : String) :
    sentFor type u.log.sent = sentFor type v.log.sent := by
  have hperm : (sentFor type u.log.sent).Perm (sentFor type v.log.sent) :=
    ((h.sent_perm h').filter _).map _
  have hsame : ∀ {w : Survey} {rs}, Brought source project types w rs →
      (sentFor type w.log.sent).Pairwise Eq := by
    intro w rs hw
    refine List.pairwise_of_forall_mem_list fun a ha b hb => ?_
    obtain ⟨x, hx, rfl⟩ := List.mem_map.mp ha
    obtain ⟨y, hy, rfl⟩ := List.mem_map.mp hb
    obtain ⟨hx, hxtype⟩ := List.mem_filter.mp hx
    obtain ⟨hy, hytype⟩ := List.mem_filter.mp hy
    exact hw.alert_unique hx hy ((of_decide_eq_true hxtype).trans (of_decide_eq_true hytype).symm)
  exact hperm.eq_of_pairwise (fun _ _ _ _ hab _ => hab) (hsame h) (hsame h')

theorem alerts_eq (h : Brought source project types u results)
    (h' : Brought source project types v results') : u.scan.alerts = v.scan.alerts := by
  rw [h.alerts, h'.alerts]
  refine (sendAll_ascending .nil _).ext (sendAll_ascending .nil _) fun type => ?_
  rw [find?_sendAll, find?_sendAll, h.sentFor_eq h' type]

end Brought

end Survey

namespace Scanning

variable {project : String} {types : List ResourceType} {limit limit' : Nat} {source : Source}
  {u v : Scanning}

theorem Driven.brought (h : Driven source project types limit u) {results : List (List Resource)}
    (hres : Scan.results? u.scan.suppliers = some (.ok results)) :
    Survey.Brought source project types u.survey results where
  length := by
    have hlength := congrArg List.length (Scan.results?_ok hres)
    rw [List.length_map, List.length_map] at hlength
    rw [← h.sound.tallies.listed, List.length_map]
    exact hlength.symm
  brings i t ht := by
    have hlisted := h.sound.tallies.listed
    rw [← hlisted, List.getElem?_map, Option.map_eq_some_iff] at ht
    obtain ⟨p, hp, rfl⟩ := ht
    have hat : (u.scan.suppliers.map Supplier.result?)[i]? = some p.result? := by
      rw [List.getElem?_map, show u.scan.suppliers[i]? = some p from hp]
      rfl
    rw [Scan.results?_ok hres, List.getElem?_map, Option.map_eq_some_iff] at hat
    obtain ⟨found, hfound, hresult⟩ := hat
    obtain ⟨_, hok, hbrings⟩ :=
      h.brings (hp.trans (congrArg some (Supplier.eq_of_result? hresult.symm)))
    obtain rfl := Except.ok.inj hok
    exact ⟨found, hfound, hbrings⟩
  alerts := h.sound.tallies.alerts
  senders := h.sound.tallies.senders

/-- Two scans that have both returned resources, and with these the same alerts. Where no two
resources of a type share an identifier, the resources are in the same order. -/
def Concordant (u v : Scanning) : Prop :=
  ∃ resources resources', u.returned = some (.ok resources) ∧ v.returned = some (.ok resources') ∧
    u.scan.alerts = v.scan.alerts ∧ resources.Perm resources' ∧
    ((resources.map Inventory.key).Nodup → resources = resources')

theorem Driven.concordant (h : Driven source project types limit u)
    (h' : Driven source project types limit' v) (hu : u.returned ≠ none) (hv : v.returned ≠ none) :
    Concordant u v := by
  obtain ⟨outcome, ho⟩ := Option.ne_none_iff_exists'.mp hu
  obtain ⟨outcome', ho'⟩ := Option.ne_none_iff_exists'.mp hv
  obtain ⟨results, hres, rfl⟩ := h.returned ho
  obtain ⟨results', hres', rfl⟩ := h'.returned ho'
  have hbrought := h.brought hres
  have hbrought' := h'.brought hres'
  have hperm : results.flatten.Perm results'.flatten := hbrought.flatten_perm hbrought'
  have hsorted := Inventory.sorted_perm results.flatten
  refine ⟨_, _, ho, ho', hbrought.alerts_eq hbrought', ?_, fun hkeys => ?_⟩
  · exact hsorted.trans (hperm.trans (Inventory.sorted_perm results'.flatten).symm)
  · exact Inventory.sorted_eq_of_perm hperm ((hsorted.map Inventory.key).nodup_iff.mp hkeys)

/-- Over a source that fails no scan, every scan in a fair schedule returns, and any two that have
returned, whatever their limits and schedules, have returned the same. -/
theorem schedule_independent (source : Source) (project : String) (types : List ResourceType)
    (hreg : ∀ t ∈ types, source.Regular project t) (limit limit' : Nat) (σ σ' : Nat → Choice) :
    let u := (start project types limit []).course source σ
    let v := (start project types limit' []).course source σ'
    (Choice.Fair types.length σ → ∃ n, (u n).returned ≠ none) ∧
      (Choice.Fair types.length σ' → ∃ n, (v n).returned ≠ none) ∧
      ∀ n m, (u n).returned ≠ none → (v m).returned ≠ none → Concordant (u n) (v m) := by
  intro u v
  have hu : ∀ n, Driven source project types limit (u n) := (Driven.start hreg limit).course σ
  have hv : ∀ m, Driven source project types limit' (v m) := (Driven.start hreg limit').course σ'
  exact ⟨course_returns (hu 0), course_returns (hv 0), fun n m => (hu n).concordant (hv m)⟩

/-- The networks are listed and read, and the zones are refused. -/
def zonesRefused : Source where
  page request _ :=
    match request.service with
    | .compute => .ok networks
    | _ => .error (.api 403 "url" "denied")
  state args := .ok (networkState args.id)

theorem zonesRefused_regular (t : ResourceType) (ht : t ∈ [.computeNetwork, .dnsManagedZone]) :
    zonesRefused.Regular "p" t := by
  rcases List.mem_pair.mp ht with rfl | rfl
  · refine .items (.asking (.stopped (.ok _))) fun item hitem => ?_
    rcases List.mem_pair.mp hitem with rfl | rfl
    · exact ⟨_, rfl, network "b", networkState "b", rfl, rfl⟩
    · exact ⟨_, rfl, network "a", networkState "a", rfl, rfl⟩
  · exact .refused (.asking (.stopped (.error _))) rfl

def zonesCourse (limit : Nat) (cs : List Choice) : Nat → Scanning :=
  (start "p" [.computeNetwork, .dnsManagedZone] limit []).course zonesRefused
    (Choice.roundRobin (cs ++ Choice.turns 2))

/-- The reads go on one after another, in the order of the listing. -/
def oneByOne : List Choice :=
  [.call 1, .call 0, .pass 0, .submit 0 .mark true, .submit 0 .scope true, .advance 0, .join,
    .submit 0 .scope true, .submit 0 .scope true, .await 0, .advance 0, .await 0, .await 0, .look,
    .join]

/-- The reads go on together, and the last one ends first. -/
def together : List Choice :=
  [.call 0, .submit 0 .scope true, .submit 0 .scope true, .submit 0 .scope true, .advance 1,
    .await 0, .advance 0, .await 0, .await 0, .join, .call 1, .join]

theorem zonesCourse_independent :
    (∃ n, (zonesCourse 1 oneByOne n).returned ≠ none) ∧
      (∃ n, (zonesCourse 3 together n).returned ≠ none) ∧
      Concordant (zonesCourse 1 oneByOne 15) (zonesCourse 3 together 12) ∧
      (zonesCourse 1 oneByOne 15).returned =
        some (.ok (Inventory.sorted [network "a", network "b"])) ∧
      (Dict.find? "google_dns_managed_zone" (zonesCourse 1 oneByOne 15).scan.alerts).isSome := by
  have hfair : ∀ cs, Choice.Fair 2 (Choice.roundRobin (cs ++ Choice.turns 2)) := fun cs =>
    Choice.roundRobin_fair fun c hc => List.mem_append_right cs hc
  obtain ⟨hreturns, hreturns', hboth⟩ := schedule_independent zonesRefused "p"
    [.computeNetwork, .dnsManagedZone] zonesRefused_regular 1 3
    (Choice.roundRobin (oneByOne ++ Choice.turns 2))
    (Choice.roundRobin (together ++ Choice.turns 2))
  have hfirst : (zonesCourse 1 oneByOne 15).returned =
      some (.ok (Inventory.sorted [network "b", network "a"])) := rfl
  have hsecond : (zonesCourse 3 together 12).returned =
      some (.ok (Inventory.sorted [network "a", network "b"])) := rfl
  have hsame : Concordant (zonesCourse 1 oneByOne 15) (zonesCourse 3 together 12) :=
    hboth 15 12 (hfirst ▸ Option.some_ne_none _) (hsecond ▸ Option.some_ne_none _)
  refine ⟨hreturns (hfair oneByOne), hreturns' (hfair together), hsame, ?_, rfl⟩
  obtain ⟨resources, resources', hu, hv, _, _, heq⟩ := hsame
  obtain rfl := Except.ok.inj (Option.some.inj (hfirst.symm.trans hu))
  obtain rfl := Except.ok.inj (Option.some.inj (hsecond.symm.trans hv))
  have hkeys : ((Inventory.sorted [network "b", network "a"]).map Inventory.key).Nodup :=
    ((Inventory.sorted_perm _).map _).nodup_iff.mpr (by decide)
  rw [hfirst, heq hkeys]

end Scanning

end CloudInventory
