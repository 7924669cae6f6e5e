import CloudInventory.Proofs.Scan.Alerts
import CloudInventory.Proofs.Scan.Completeness
import CloudInventory.Proofs.Scan.Refusals
import CloudInventory.Proofs.Scan.Scanning

/-! A scan that returns resources is complete, in order and consistent with its alerts: a type
with an alert has no resource. -/

namespace CloudInventory

namespace Survey

variable {project : String} {types : List ResourceType} {limit : Nat} {alerts : Alerts}
  {u : Survey} {i : Nat} {t : ResourceType} {found : List Resource}

/-- A supplier that has found a resource has sent no alert, and the resource is of its type. -/
theorem Sound.of_mem (h : Sound project types limit alerts u) (hc : u.scan.pool.cancelled = false)
    (hi : u.scan.suppliers[i]? = some ⟨t, .finished (.ok found)⟩) {r : Resource} (hr : r ∈ found) :
    u.log.sentBy i = [] ∧ r.type = t := by
  have hsent : u.log.sentBy i = [] := by
    have hends := h.ends hc hi
    generalize hres : (Except.ok found : Except Error (List Resource)) = result at hends
    cases hends with
    | found hsent => exact hsent
    | hidden =>
      obtain rfl := Except.ok.inj hres
      exact absurd hr List.not_mem_nil
    | failed => cases hres
  obtain ⟨_, _, hlisted, hphase, hread⟩ := h.settled_of_ok hi hsent
  obtain ⟨all, hall, hperm⟩ := h.readings_perm hlisted.opened hphase hread
  exact ⟨hsent, type_of_yields hall r (List.mem_of_mem_filter (hperm.mem_iff.mp hr))⟩

/-- Where every type has one supplier, no resource is of a type with an alert. -/
theorem Sound.not_alerted (h : Sound project types limit [] u) (hn : types.Nodup)
    (hc : u.scan.pool.cancelled = false)
    (hi : u.scan.suppliers[i]? = some ⟨t, .finished (.ok found)⟩) {r : Resource} (hr : r ∈ found) :
    Dict.find? r.type.name u.scan.alerts = none := by
  obtain ⟨hsent, rfl⟩ := h.of_mem hc hi hr
  by_contra halert
  rw [h.tallies.alerts] at halert
  obtain ⟨x, hx, htype⟩ := mem_of_find?_sendAll halert
  obtain ⟨t, ht, hname⟩ := Option.map_eq_some_iff.mp (h.tallies.senders x hx)
  have hsame : types[x.1]? = some r.type := by
    rw [ht, ResourceType.name_inj (hname.trans htype)]
  have hown := h.tallies.type_of_supplier hi
  have hlt := (List.getElem?_eq_some_iff.mp hsame).1
  obtain rfl : x.1 = i := (List.getElem?_inj hlt hn).mp (hsame.trans hown.symm)
  have hmem : x.2 ∈ u.log.sentBy x.1 := mem_ownedBy hx
  rw [hsent] at hmem
  exact absurd hmem List.not_mem_nil

end Survey

namespace Scanning

/-- A scan returns resources if and only if all of its suppliers do, and then it is made of all
that they have returned; and where it is one of each type, with no alerts from before, no type
with an alert has a resource in it. -/
theorem scan_complete :
    (∀ (s : Scan) (w : Scanner), s.pool.cancelled = false → Scanner.Reached s w →
      Scanner.Complete s w) ∧
    ∀ (project : String) (types : List ResourceType) (limit : Nat) (ms : List Move),
      types.Nodup → .cancel ∉ ms →
      let u := (start project types limit []).run ms
      Scanner.Reached (start project types limit []).scan u.scanner ∧
        ∀ resources, u.returned = some (.ok resources) →
          ∀ type, Dict.find? type u.scan.alerts ≠ none → Inventory.ofType type resources = [] := by
  refine ⟨fun s w hc h => (Scanner.Reached.sound h hc).complete, ?_⟩
  intro project types limit ms hn hms u
  have hreached : Scanner.Reached (start project types limit []).scan u.scanner :=
    scanner_run hms (start project types limit [])
  refine ⟨hreached, fun resources hret type halert => ?_⟩
  have hs : Scanner.Sound (start project types limit []).scan u.scanner := hreached.sound rfl
  have hc : u.scan.pool.cancelled = false := hs.uncancelled fun e he => by
    rw [show u.scanner.returned = u.returned from rfl, hret] at he
    cases he
  obtain ⟨results, hresults, hperm, _⟩ := hs.complete.arranged resources hret
  refine List.filter_eq_nil_iff.mpr fun r hr hname => halert ?_
  obtain rfl : r.type.name = type := eq_of_beq hname
  obtain ⟨found, hfound, hmem⟩ := List.mem_flatten.mp (hperm.mem_iff.mp hr)
  have hres : some (.ok found) ∈ u.scan.suppliers.map Supplier.result? :=
    hresults ▸ List.mem_map_of_mem hfound
  obtain ⟨p, hp, hok⟩ := List.mem_map.mp hres
  obtain ⟨i, hi⟩ := List.mem_iff_getElem?.mp hp
  rw [Supplier.eq_of_result? hok] at hi
  exact (run_survey project types limit [] ms).sound.not_alerted hn hc hi hmem

def networkState (id : String) : State := .map [("id", .text id), ("name", .text id)]

def network (id : String) : Resource := .computeNetwork ⟨id, id, none, none, [], none⟩

def networks : Page Json :=
  ⟨[.object [("name", .string "b")], .object [("name", .string "a")]], none, true⟩

/-- The zones are refused, and two networks are read one after another. -/
def networkMoves : List Move :=
  [.answer 1 (.error (.api 403 "url" "denied")),
    .answer 0 (.ok networks),
    .pass 0, .submit 0 .mark true (.value (networkState "b")), .submit 0 .scope true (.panic ""),
    .advance 0, .join, .submit 0 .scope true (.value (networkState "a")),
    .submit 0 .scope true (.panic ""), .await 0, .advance 0, .await 0, .await 0, .look, .join]

theorem networkMoves_complete :
    let u := (start "p" [.computeNetwork, .dnsManagedZone] 1 []).run networkMoves
    u.returned = some (.ok (Inventory.sorted [network "b", network "a"])) ∧
      (Dict.find? "google_dns_managed_zone" u.scan.alerts).isSome = true ∧
      Inventory.ofType "google_dns_managed_zone"
        (Inventory.sorted [network "b", network "a"]) = [] ∧
      Scanner.Complete (start "p" [.computeNetwork, .dnsManagedZone] 1 []).scan u.scanner := by
  intro u
  have hret : u.returned = some (.ok (Inventory.sorted [network "b", network "a"])) := rfl
  have halert : (Dict.find? "google_dns_managed_zone" u.scan.alerts).isSome = true := rfl
  obtain ⟨hcomplete, hconsistent⟩ := scan_complete
  obtain ⟨hreached, hnone⟩ :=
    hconsistent "p" [.computeNetwork, .dnsManagedZone] 1 networkMoves (by decide)
      (by simp [networkMoves])
  refine ⟨hret, halert, hnone _ hret _ fun h => ?_, hcomplete _ _ rfl hreached⟩
  rw [h] at halert
  cases halert

end Scanning

end CloudInventory
