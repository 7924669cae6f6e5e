import CloudInventory.Proofs.Resource.Reading
import CloudInventory.Proofs.Scan.Sound

/-! Complete fan-out. A supplier begins no read before its listing is complete and all listed items
are identified, and one that ends without an alert has read every listed item once. -/

namespace CloudInventory

open Listing (Lists identify)

namespace ResourceType

variable {t : ResourceType} {resource : Resource}

theorem readMap_type {entries : List (String × Json)} (h : t.readMap entries = .ok resource) :
    resource.type = t := by
  unfold readMap at h
  split at h
  · obtain rfl := Except.ok.inj h
    cases t <;> rfl
  · cases h

theorem readState_ok {place : Nat} {s : State} (h : t.readState place s = .ok resource) :
    resource.type = t ∧ ∀ place, t.readState place s = .ok resource := by
  obtain ⟨entries, rfl, hmap⟩ := exists_readMap_of_readState h
  exact ⟨readMap_type hmap, readState_at h⟩

end ResourceType

/-- Only a bucket without notifications is left out of an inventory. -/
theorem Resource.isConfigured_eq_false {r : Resource} (h : r.isConfigured = false) :
    ∃ n, r = .storageBucketNotification n ∧ n.notifications = [] := by
  cases r with
  | storageBucketNotification n => exact ⟨n, rfl, by simpa [isConfigured] using h⟩
  | _ => simp [isConfigured] at h

namespace Survey

variable {project : String} {types : List ResourceType} {limit : Nat} {alerts : Alerts}
  {u : Survey} {i r : Nat} {t : ResourceType}

/-- What a read comes to as a resource of its type. -/
def Yields (t : ResourceType) (ending : Ending State) (resource : Resource) : Prop :=
  ∃ state, ending = .value state ∧ resource.type = t ∧
    ∀ place, t.readState place state = .ok resource

theorem Tallies.acceptedBy (h : Tallies project types limit alerts u)
    (hr : u.log.opened[r]? = some i) :
    (u.log.pool.acceptedBy r).map Job.ending = (u.log.begunBy i).map (·.ending) := by
  have hfilter : u.log.begun.filter (·.supplier == i) = u.log.begun.filter (·.runner == r) := by
    apply List.filter_congr
    intro b hb
    have hopened := h.begun b hb
    have hlt := (List.getElem?_eq_some_iff.mp hopened).1
    by_cases hs : b.supplier = i
    · have hrun : b.runner = r :=
        (List.getElem?_inj hlt h.nodup).mp (by rw [hopened, hr, hs])
      simp [hs, hrun]
    · have hrun : b.runner ≠ r := by
        rintro rfl
        exact hs (Option.some.inj (hopened.symm.trans hr))
      simp [hs, hrun]
  rw [Pool.Log.acceptedBy, h.accepted, Scan.Log.begunBy, hfilter]
  generalize u.log.begun = begun
  induction begun with
  | nil => rfl
  | cons b bs ih => by_cases hb : b.runner = r <;> simp [Read.task, hb, ih]

theorem type_of_yields {reads : List Read} {found : List Resource}
    (h : reads.Forall₂ (fun b => Yields t b.ending) found) : ∀ r ∈ found, r.type = t := by
  have hand : found.Forall₂ (fun r b => r.type = t ∧ Yields t b.ending r) reads := by
    refine List.Forall₂.flip (h.imp fun b r hr => ?_)
    exact ⟨hr.choose_spec.2.1, hr⟩
  exact ((List.forall₂_and_left _ _).mp hand).1

theorem Sound.readings_perm (h : Sound project types limit alerts u)
    (hr : u.log.opened[r]? = some i) {states : List State}
    (hp : u.scan.pool.phase? r = some (.settled (.ok states))) {resources : List Resource}
    (hres : readings t states = .ok resources) :
    ∃ found, (u.log.begunBy i).Forall₂ (fun b => Yields t b.ending) found ∧
      resources.Perm (found.filter Resource.isConfigured) := by
  obtain ⟨_, _, hperm⟩ := h.tallies.pool.settled_ok hp
  rw [h.tallies.acceptedBy hr] at hperm
  cases hs : t.readStates states with
  | error e => simp [readings, hs, Except.map] at hres
  | ok all =>
    obtain rfl : all.filter Resource.isConfigured = resources := by
      simpa [readings, hs, Except.map] using hres
    have hall : (states.map Ending.value).Forall₂ (Yields t) all := by
      refine List.forall₂_map_left_iff.mpr ((ResourceType.readStatesFrom_eq_ok_iff.mp hs).imp ?_)
      exact fun s r hsr => ⟨s, rfl, ResourceType.readState_ok hsr⟩
    obtain ⟨found, hfound, hp⟩ := List.perm_comp_forall₂ hperm hall
    exact ⟨found, List.forall₂_map_left_iff.mp hfound, (hp.filter _).symm⟩

theorem Sound.listed_of_begun (h : Sound project types limit alerts u) {progress : Progress}
    (hi : u.scan.suppliers[i]? = some ⟨t, progress⟩) (hb : u.log.begunBy i ≠ []) :
    u.scan.request? i = none ∧ ∃ r args, Listed project u i t r args := by
  have hplaced : Placed project u i t progress := h.placed i _ hi
  have hopen : ¬i ∉ u.log.opened := fun hi => hb (Sound.begunBy_eq_nil h.tallies hi)
  cases hplaced with
  | listing _ _ hun => exact absurd hun hopen
  | unlisted _ hun => exact absurd hun hopen
  | submitting hl | waiting hl | refused hl | gave_up hl | settled hl =>
    exact ⟨by simp [Scan.request?, hi], _, _, hl⟩

theorem resultOf_ok {e : Error} {alert? : Option Alert} {resources : List Resource}
    (h : resultOf e alert? = .ok resources) : resources = [] ∧ ∃ alert, alert? = some alert := by
  cases alert? with
  | none => cases h
  | some alert => exact ⟨(Except.ok.inj h).symm, alert, rfl⟩

theorem Sound.settled_of_ok (h : Sound project types limit alerts u) {resources : List Resource}
    (hi : u.scan.suppliers[i]? = some ⟨t, .finished (.ok resources)⟩)
    (hsent : u.log.sentBy i = []) :
    ∃ r states, Listed project u i t r ((u.log.begunBy i).map (·.args)) ∧
      u.scan.pool.phase? r = some (.settled (.ok states)) ∧
      readings t states = .ok resources := by
  have hplaced : Placed project u i t (.finished (.ok resources)) := h.placed i _ hi
  generalize hres : (Except.ok resources : Except Error (List Resource)) = result at hplaced
  cases hplaced with
  | unlisted _ _ hs | gave_up _ _ hs =>
    obtain ⟨_, alert, ha⟩ := resultOf_ok hres.symm
    simp [hsent, ha, alertsOf] at hs
  | refused => cases hres
  | settled hlisted hphase => exact ⟨_, _, hlisted, hphase, rfl⟩

/-- No read of a supplier starts before its listing is complete and every listed item is
identified; and a supplier that ends well without an alert has read each listed item once, its
result being what these reads have come to, less the buckets without notifications. -/
theorem reads_complete (h : Reached project types limit alerts u) {progress : Progress}
    (hi : u.scan.suppliers[i]? = some ⟨t, progress⟩) :
    (u.scan.calls = u.log.heard.map (·.2.1) ∧ u.scan.reads = u.log.begun.map (·.args)) ∧
    (u.log.begunBy i ≠ [] → u.scan.request? i = none ∧
      ∃ listed args, Lists t project (u.log.heardBy i) listed ∧
        listed.Forall₂ (identify t · = .ok ·) args ∧
        ((u.log.begunBy i).map (·.args)).Sublist args) ∧
    ((∃ x ∈ u.log.heardBy i, ∃ e, x.2 = .error e) → u.log.begunBy i = []) ∧
    ∀ resources, progress = .finished (.ok resources) → u.log.sentBy i = [] →
      ∃ listed found, Lists t project (u.log.heardBy i) listed ∧
        listed.Forall₂ (identify t · = .ok ·) ((u.log.begunBy i).map (·.args)) ∧
        (u.log.begunBy i).Forall₂ (fun b => Yields t b.ending) found ∧
        resources.Perm (found.filter Resource.isConfigured) ∧
        (∀ r ∈ resources, r.type = t) ∧
        ∀ r ∈ found, r.isConfigured = false →
          ∃ n, r = .storageBucketNotification n ∧ n.notifications = [] := by
  have hs := h.sound
  refine ⟨⟨hs.tallies.calls, hs.tallies.reads⟩, fun hb => ?_, fun hx => ?_, ?_⟩
  · obtain ⟨hreq, r, args, hlisted⟩ := hs.listed_of_begun hi hb
    obtain ⟨listed, hlists, hargs⟩ := hlisted.heard.stands.done_ok
    exact ⟨hreq, listed, args, hlists, hargs, hlisted.begun⟩
  · by_contra hb
    obtain ⟨_, r, args, hlisted⟩ := hs.listed_of_begun hi hb
    obtain ⟨x, hx, e, he⟩ := hx
    obtain ⟨page, hpage⟩ := hlisted.heard.stands.answers_ok (by simp) x hx
    rw [he] at hpage
    cases hpage
  · rintro resources rfl hsent
    obtain ⟨r, states, hlisted, hphase, hread⟩ := hs.settled_of_ok hi hsent
    obtain ⟨listed, hlists, hargs⟩ := hlisted.heard.stands.done_ok
    obtain ⟨found, hfound, hperm⟩ := hs.readings_perm hlisted.opened hphase hread
    refine ⟨listed, found, hlists, hargs, hfound, hperm, fun r hr => ?_,
      fun _ _ => Resource.isConfigured_eq_false⟩
    exact type_of_yields hfound r (List.mem_of_mem_filter (hperm.mem_iff.mp hr))

def bucketState (id : String) (notifications : List State) : State :=
  .map [("id", .text id), ("items", .list notifications)]

/-- Two pages of buckets, of which only the second has a notification, are read with one permit,
while another supplier fails. -/
def bucketMoves : List Move :=
  [.answer 0 (.ok ⟨[.object [("name", .string "a")]], some "next", false⟩),
    .answer 1 (.error (.auth "expired")),
    .answer 0 (.ok ⟨[.object [("name", .string "b")]], none, true⟩),
    .submit 0 .scope true (.value (bucketState "a" [])), .submit 0 .scope false (.panic ""), .advance 0,
    .submit 0 .mark true
      (.value (bucketState "b" [.map [("id", .text "1"), ("topic", .text "t")]])),
    .submit 0 .scope false (.panic ""), .await 0, .await 0, .advance 0, .await 0, .await 0]

def notifyingBucket : Resource :=
  .storageBucketNotification ⟨"b", [⟨"1", "t", none, [], none, []⟩]⟩

def bucketSurvey : Survey :=
  (start "p" [.storageBucketNotification, .computeNetwork] 1 []).play bucketMoves

theorem bucketSurvey_complete :
    Reached "p" [.storageBucketNotification, .computeNetwork] 1 [] bucketSurvey ∧
      bucketSurvey.scan.suppliers[0]? =
        some ⟨.storageBucketNotification, .finished (.ok [notifyingBucket])⟩ ∧
      (bucketSurvey.log.begunBy 0).map (·.args.id) = ["a", "b"] ∧
      ∃ listed, Lists .storageBucketNotification "p" (bucketSurvey.log.heardBy 0) listed ∧
        listed.Forall₂ (identify .storageBucketNotification · = .ok ·)
          ((bucketSurvey.log.begunBy 0).map (·.args)) := by
  have hr : Reached "p" [.storageBucketNotification, .computeNetwork] 1 [] bucketSurvey :=
    reaches_play (by decide)
  have hi : bucketSurvey.scan.suppliers[0]? =
      some ⟨.storageBucketNotification, .finished (.ok [notifyingBucket])⟩ := rfl
  have hsent : bucketSurvey.log.sentBy 0 = [] := rfl
  obtain ⟨_, _, _, hcomplete⟩ := reads_complete hr hi
  obtain ⟨listed, _, hlists, hargs, _⟩ := hcomplete [notifyingBucket] rfl hsent
  exact ⟨hr, hi, by decide, listed, hlists, hargs⟩

end Survey

end CloudInventory
