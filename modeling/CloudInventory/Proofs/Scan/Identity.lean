import CloudInventory.Proofs.Json.Equality
import CloudInventory.Proofs.Listing.Identity
import CloudInventory.Proofs.Scan.Finality

/-! Identifiers in an inventory. A resource has the identifier of its listed item, so that two
resources with one type and identifier come from two reads with one type and identifier. Where the
identifiers of a type are as fine as the addresses that its reads go to, there are no two such
resources, and the order of the inventory is the only one. -/

namespace CloudInventory

open Listing (identify)

/-- A read that has ended with a state ended with what a client read. -/
def Read.IsClients (b : Read) : Prop :=
  ∀ state, b.ending = .value state → ∃ c : Client, c.read b.args = .ok state

def Read.key (b : Read) : String × String := (b.args.type, b.args.id)

namespace Scan

/-- The reads of one type. -/
def readsOf (t : ResourceType) (s : Scan) : List ReadArgs := s.reads.filter (·.type == t.name)

/-- The reads of a type go to different addresses. -/
def Distinct (t : ResourceType) (s : Scan) : Prop :=
  ((s.readsOf t).map (t.definition.readPathOf s.project)).Nodup

/-- Reads of a type with one identifier go to one address. -/
def Discerned (t : ResourceType) (s : Scan) : Prop :=
  ∀ a ∈ s.readsOf t, ∀ b ∈ s.readsOf t, a.id = b.id →
    t.definition.readPathOf s.project a = t.definition.readPathOf s.project b

instance (t : ResourceType) (s : Scan) : Decidable (s.Distinct t) :=
  inferInstanceAs (Decidable (List.Nodup _))

instance (t : ResourceType) (s : Scan) : Decidable (s.Discerned t) :=
  inferInstanceAs (Decidable (∀ a ∈ s.readsOf t, ∀ b ∈ s.readsOf t, a.id = b.id →
    t.definition.readPathOf s.project a = t.definition.readPathOf s.project b))

end Scan

namespace Inventory

variable {resources : List Resource}

def keysOf (t : ResourceType) (resources : List Resource) : List (String × String) :=
  (ofType t.name resources).map key

theorem keysOf_flatten (t : ResourceType) (results : List (List Resource)) :
    keysOf t results.flatten = (results.map (keysOf t)).flatten := by
  rw [keysOf, ofType, List.filter_flatten, List.map_flatten, List.map_map]
  rfl

theorem ids_nodup {t : ResourceType} (h : (keysOf t resources).Nodup) :
    ((ofType t.name resources).map Resource.id).Nodup := by
  have hkeys : keysOf t resources =
      ((ofType t.name resources).map Resource.id).map (t.name, ·) := by
    rw [keysOf, List.map_map]
    refine List.map_congr_left fun r hr => Prod.ext ?_ rfl
    exact eq_of_beq (List.mem_filter.mp hr).2
  exact List.Nodup.of_map _ (hkeys ▸ h)

theorem keys_nodup (h : ∀ t : ResourceType, (keysOf t resources).Nodup) :
    (resources.map key).Nodup := by
  induction resources with
  | nil => exact .nil
  | cons r rest ih =>
    refine List.nodup_cons.mpr ⟨fun hmem => ?_, ih fun t => ?_⟩
    · obtain ⟨r', hr', hkey⟩ := List.mem_map.mp hmem
      have hhere := h r.type
      have hname : r'.type.name = r.type.name := (Prod.mk.inj hkey).1
      simp only [keysOf, ofType, List.filter_cons, beq_self_eq_true, if_true, List.map_cons,
        List.nodup_cons] at hhere
      refine hhere.1 (List.mem_map.mpr ⟨r', List.mem_filter.mpr ⟨hr', ?_⟩, hkey⟩)
      exact beq_iff_eq.mpr hname
    · exact (h t).sublist (((List.sublist_cons_self r rest).filter _).map key)

end Inventory

namespace Scanner

variable {s : Scan} {w : Scanner} {resources : List Resource}

/-- The resources that a scanner has returned are those of its suppliers, also under a pool that
has been cancelled since. -/
theorem Comes.gathers (h : Comes ⟨s, none⟩ w) (hw : w.returned = some (.ok resources)) :
    ∃ results, Scan.results? w.scan.suppliers = some (.ok results) ∧
      resources = Inventory.sorted results.flatten := by
  induction h with
  | refl => cases hw
  | @tail v w _ hevent ih =>
    cases hevent with
    | cancel => exact ih hw
    | step hstep =>
      cases hstep with
      | works hr =>
        rw [hr] at hw
        cases hw
      | reads _ hsame =>
        rw [hsame]
        exact ih hw
      | look =>
        rcases look_cases v with hsame | ⟨_, _, hlook⟩
        · rw [hsame] at hw ⊢
          exact ih hw
        · rw [hlook] at hw
          cases hw
      | join =>
        rcases join_cases v with hsame | ⟨outcome, _, hres, hjoin⟩
        · rw [hsame] at hw ⊢
          exact ih hw
        · rw [hjoin] at hw ⊢
          cases outcome with
          | error e => cases hw
          | ok results => exact ⟨results, hres, (Except.ok.inj (Option.some.inj hw)).symm⟩

end Scanner

namespace Survey

variable {project : String} {types : List ResourceType} {limit : Nat} {alerts : Alerts}
  {u : Survey} {i : Nat} {t : ResourceType} {found : List Resource} {b c : Read}

theorem keys_of_yields {reads : List Read} (h : reads.Forall₂ (fun b => Yields t b.ending) found)
    (hclient : ∀ b ∈ reads, b.IsClients) (htype : ∀ b ∈ reads, b.args.type = t.name) :
    found.map Inventory.key = reads.map Read.key := by
  induction h with
  | nil => rfl
  | @cons b resource reads found hb _ ih =>
    obtain ⟨state, hvalue, hof, hread⟩ := hb
    obtain ⟨client, hstate⟩ := hclient b List.mem_cons_self state hvalue
    have hid : resource.id = b.args.id := Client.id_of_read hstate (hread 0)
    have hkey : Inventory.key resource = b.key :=
      Prod.ext ((congrArg ResourceType.name hof).trans (htype b List.mem_cons_self).symm) hid
    rw [List.map_cons, List.map_cons, hkey, ih (fun c hc => hclient c (List.mem_cons_of_mem _ hc))
      fun c hc => htype c (List.mem_cons_of_mem _ hc)]

/-- The resources of a supplier have the types and identifiers of its reads, each of which was
begun for an item of its listing. -/
theorem Sound.keys (h : Sound project types limit alerts u)
    (hclient : ∀ b ∈ u.log.begun, b.IsClients)
    (hi : u.scan.suppliers[i]? = some ⟨t, .finished (.ok found)⟩) :
    found = [] ∨ (∀ r ∈ found, r.type = t) ∧
      (found.map Inventory.key).Subperm ((u.log.begunBy i).map Read.key) ∧
        ∀ b ∈ u.log.begunBy i, ∃ x, identify t x = .ok b.args := by
  have hplaced : Placed project u i t (.finished (.ok found)) := h.placed i _ hi
  generalize hres : (Except.ok found : Except Error (List Resource)) = result at hplaced
  cases hplaced with
  | unlisted | gave_up => exact .inl (resultOf_ok hres.symm).1
  | refused => cases hres
  | settled hlisted hphase =>
    obtain ⟨listed, _, hargs⟩ := hlisted.heard.stands.done_ok
    have hidentified : ∀ b ∈ u.log.begunBy i, ∃ x, identify t x = .ok b.args := by
      intro b hb
      obtain ⟨x, _, hx⟩ := exists_of_forall₂ hargs (List.mem_map_of_mem hb)
      exact ⟨x, hx⟩
    obtain ⟨all, hall, hperm⟩ := h.readings_perm hlisted.opened hphase hres.symm
    have hkeys : all.map Inventory.key = (u.log.begunBy i).map Read.key :=
      keys_of_yields hall (fun b hb => hclient b (List.mem_of_mem_filter hb)) fun b hb => by
        obtain ⟨x, hx⟩ := hidentified b hb
        exact Listing.type_of_identify hx
    have hsub : (found.map Inventory.key).Subperm (all.map Inventory.key) :=
      (hperm.map _).subperm.trans (List.filter_sublist.map _).subperm
    refine .inr ⟨fun r hr => ?_, hkeys ▸ hsub, hidentified⟩
    exact type_of_yields hall r (List.mem_of_mem_filter (hperm.mem_iff.mp hr))

theorem Sound.keys_ofType (h : Sound project types limit alerts u)
    (hclient : ∀ b ∈ u.log.begun, b.IsClients) {t' : ResourceType}
    (hi : u.scan.suppliers[i]? = some ⟨t', .finished (.ok found)⟩) (t : ResourceType) :
    Inventory.keysOf t found = [] ∨
      (Inventory.keysOf t found).Subperm ((u.log.begunBy i).map Read.key) ∧
        ∀ b ∈ u.log.begunBy i, ∃ x, identify t x = .ok b.args := by
  rcases h.keys hclient hi with rfl | ⟨htypes, hsub, hx⟩
  · exact .inl rfl
  · by_cases ht : t' = t
    · subst ht
      exact .inr ⟨(List.filter_sublist.map _).subperm.trans hsub, hx⟩
    · refine .inl (List.map_eq_nil_iff.mpr (List.filter_eq_nil_iff.mpr fun r hr hname => ht ?_))
      exact (htypes r hr).symm.trans (ResourceType.name_inj (eq_of_beq hname))

theorem Tallies.readsOf (h : Tallies project types limit alerts u) (t : ResourceType) :
    u.scan.readsOf t = (u.log.begun.filter (·.args.type == t.name)).map (·.args) := by
  rw [Scan.readsOf, h.reads, List.filter_map]
  rfl

/-- Identified reads with one key are one read. -/
theorem Sound.eq_of_key (h : Sound project types limit alerts u) (hdistinct : u.scan.Distinct t)
    (hdiscerned : t.readById = true ∨ u.scan.Discerned t) {x y : Option String × Json}
    (hb : b ∈ u.log.begun) (hc : c ∈ u.log.begun) (hx : identify t x = .ok b.args)
    (hy : identify t y = .ok c.args) (hkey : b.key = c.key) : b = c := by
  have hid : b.args.id = c.args.id := (Prod.mk.inj hkey).2
  have hmem : ∀ {d : Read} {z}, d ∈ u.log.begun → identify t z = .ok d.args →
      d ∈ u.log.begun.filter (·.args.type == t.name) := fun hd hz =>
    List.mem_filter.mpr ⟨hd, beq_iff_eq.mpr (Listing.type_of_identify hz)⟩
  have hpath : t.definition.readPathOf u.scan.project b.args =
      t.definition.readPathOf u.scan.project c.args := by
    rcases hdiscerned with hplain | hdiscerned
    · rw [Listing.eq_of_id_eq hplain hx hy hid]
    · have hreads := h.tallies.readsOf t
      exact hdiscerned _ (hreads ▸ List.mem_map_of_mem (hmem hb hx)) _
        (hreads ▸ List.mem_map_of_mem (hmem hc hy)) hid
  rw [Scan.Distinct, h.tallies.readsOf, List.map_map] at hdistinct
  exact List.inj_on_of_nodup_map hdistinct (hmem hb hx) (hmem hc hy) hpath

theorem Sound.keys_nodup (h : Sound project types limit alerts u) (hdistinct : u.scan.Distinct t)
    (hdiscerned : t.readById = true ∨ u.scan.Discerned t)
    (hx : ∀ b ∈ u.log.begunBy i, ∃ x, identify t x = .ok b.args) :
    ((u.log.begunBy i).map Read.key).Nodup := by
  refine List.Nodup.map_on (fun b hb c hc hkey => ?_) ?_
  · obtain ⟨x, hbx⟩ := hx b hb
    obtain ⟨y, hcy⟩ := hx c hc
    exact h.eq_of_key hdistinct hdiscerned (List.mem_of_mem_filter hb) (List.mem_of_mem_filter hc)
      hbx hcy hkey
  · have hall : u.log.begunBy i = (u.log.begunBy i).filter (·.args.type == t.name) := by
      refine (List.filter_eq_self.mpr fun b hb => ?_).symm
      obtain ⟨x, hbx⟩ := hx b hb
      exact beq_iff_eq.mpr (Listing.type_of_identify hbx)
    rw [Scan.Distinct, h.tallies.readsOf, List.map_map] at hdistinct
    rw [hall]
    exact (List.Nodup.of_map _ hdistinct).sublist (List.filter_sublist.filter _)

end Survey

namespace Scanning

open Survey

variable {project : String} {types : List ResourceType} {limit : Nat} {alerts : Alerts}
  {u : Scanning} {results : List (List Resource)}

/-- What a supplier has brought of a type comes from its own reads. -/
theorem keysOf_at (h : Sound project types limit alerts u.survey)
    (hclient : ∀ b ∈ u.log.begun, b.IsClients)
    (hres : Scan.results? u.scan.suppliers = some (.ok results)) {t : ResourceType} {i : Nat}
    {keys : List (String × String)} (hi : (results.map (Inventory.keysOf t))[i]? = some keys) :
    keys = [] ∨ keys.Subperm ((u.log.begunBy i).map Read.key) ∧
      ∀ b ∈ u.log.begunBy i, ∃ x, identify t x = .ok b.args := by
  rw [List.getElem?_map, Option.map_eq_some_iff] at hi
  obtain ⟨found, hi, rfl⟩ := hi
  have hresult : (u.scan.suppliers.map Supplier.result?)[i]? = some (some (.ok found)) := by
    rw [Scan.results?_ok hres, List.getElem?_map, hi]
    rfl
  rw [List.getElem?_map, Option.map_eq_some_iff] at hresult
  obtain ⟨p, hp, hresult⟩ := hresult
  rw [Supplier.eq_of_result? hresult] at hp
  exact h.keys_ofType hclient hp t

theorem keys_nodup (h : Sound project types limit alerts u.survey)
    (hclient : ∀ b ∈ u.log.begun, b.IsClients)
    (hres : Scan.results? u.scan.suppliers = some (.ok results)) {t : ResourceType}
    (hdistinct : u.scan.Distinct t) (hdiscerned : t.readById = true ∨ u.scan.Discerned t) :
    (Inventory.keysOf t results.flatten).Nodup := by
  rw [Inventory.keysOf_flatten, List.nodup_flatten]
  constructor
  · intro keys hkeys
    obtain ⟨i, hi⟩ := List.mem_iff_getElem?.mp hkeys
    rcases keysOf_at h hclient hres hi with rfl | ⟨⟨keys', hperm, hsub⟩, hx⟩
    · exact .nil
    · exact hperm.nodup_iff.mp ((h.keys_nodup hdistinct hdiscerned hx).sublist hsub)
  · refine List.pairwise_iff_getElem.mpr fun i j hi hj hij key hkey hkey' => ?_
    rcases keysOf_at h hclient hres (List.getElem?_eq_getElem hi) with hnil | ⟨hsub, hx⟩
    · exact List.not_mem_nil (hnil ▸ hkey)
    · rcases keysOf_at h hclient hres (List.getElem?_eq_getElem hj) with hnil | ⟨hsub', hy⟩
      · exact List.not_mem_nil (hnil ▸ hkey')
      · -- a key of two suppliers is the key of one read, which only one of them began
        obtain ⟨b, hb, hbkey⟩ := List.mem_map.mp (hsub.subset hkey)
        obtain ⟨c, hc, hckey⟩ := List.mem_map.mp (hsub'.subset hkey')
        obtain ⟨x, hbx⟩ := hx b hb
        obtain ⟨y, hcy⟩ := hy c hc
        obtain ⟨hb, hbi⟩ := List.mem_filter.mp hb
        obtain ⟨hc, hcj⟩ := List.mem_filter.mp hc
        obtain rfl := h.eq_of_key hdistinct hdiscerned hb hc hbx hcy (hbkey.trans hckey.symm)
        exact absurd ((eq_of_beq hbi).symm.trans (eq_of_beq hcj)) (Nat.ne_of_lt hij)

/-- Where the reads of a type go to different addresses, no two of its resources share an
identifier, if the reads need no more than identifiers or these are as fine as the addresses. Where
that holds of all types, the order of the inventory is the only one. -/
theorem identifiers_unique (project : String) (types : List ResourceType) (limit : Nat)
    (alerts : Alerts) (ms : List Move) {resources : List Resource} :
    let u := (start project types limit alerts).run ms
    u.returned = some (.ok resources) → (∀ b ∈ u.log.begun, b.IsClients) →
      (∀ t, u.scan.Distinct t) →
      (∀ t : ResourceType, t.readById = true ∨ u.scan.Discerned t →
        ((Inventory.ofType t.name resources).map Resource.id).Nodup) ∧
      ((∀ t : ResourceType, t.readById = true ∨ u.scan.Discerned t) →
        (resources.map Inventory.key).Nodup ∧
          ∀ other : List Resource, other.Perm resources → Inventory.sorted other = resources) := by
  intro u hret hclient hdistinct
  have hsound := (run_survey project types limit alerts ms).sound
  have hcomes : Scanner.Comes (start project types limit alerts).scanner u.scanner :=
    comes_run ms _
  obtain ⟨results, hres, rfl⟩ := hcomes.gathers hret
  have hsorted := Inventory.sorted_perm results.flatten
  have hkeys : ∀ t : ResourceType, t.readById = true ∨ u.scan.Discerned t →
      (Inventory.keysOf t results.flatten).Nodup := fun t ht =>
    keys_nodup hsound hclient hres (hdistinct t) ht
  refine ⟨fun t ht => ?_, fun hall => ?_⟩
  · have hperm := (hsorted.filter (·.type.name == t.name)).map Inventory.key
    exact Inventory.ids_nodup (hperm.nodup_iff.mpr (hkeys t ht))
  · have hnodup := Inventory.keys_nodup fun t => hkeys t (hall t)
    refine ⟨((hsorted.map Inventory.key).nodup_iff).mpr hnodup, fun other hother => ?_⟩
    exact (Inventory.sorted_eq_of_perm (hother.trans hsorted).symm hnodup).symm

def vmBody : String := "\x7b\"name\":\"vm\"\x7d"

/-- Every address holds the same. -/
def uniform : Client := ⟨"p", none, .ok "token", fun _ _ => .ok ⟨200, vmBody⟩⟩

def machineItem (zone name : String) : Json :=
  .object [("name", .string name), ("zone", .string zone)]

def machineArgs (zone id : String) : ReadArgs := ⟨"google_compute_instance", id, [("zone", zone)]⟩

def machineState (zone id : String) : State :=
  .map [("id", .text id), ("name", .text "vm"), ("zone", .text zone)]

def machine (zone id : String) : Resource :=
  .computeInstance ⟨id, "vm", some zone, none, none, [], [], false⟩

theorem uniform_get (url : String) :
    uniform.get url = .ok (.object [("name", .string "vm")]) := by
  have hparse : Json.parse vmBody = .ok (.object [("name", .string "vm")]) := by decide +kernel
  have hfull : vmBody.toList.all Text.isBlank = false := by decide
  simp only [Client.get, uniform, bind, Except.bind, Response.content, hfull, hparse]
  rfl

theorem uniform_read (zone id : String) :
    uniform.read (machineArgs zone id) = .ok (machineState zone id) := by
  have hdef : ResourceType.definitionOf (machineArgs zone id).type =
      .ok ResourceType.computeInstance.definition := rfl
  have hid : Dict.insert "id" (State.text id) [("name", .text "vm")] =
      [("id", .text id), ("name", .text "vm")] := Dict.insert_of_lt (by decide) _ _ _
  have hzone : Dict.insertIfAbsent "zone" (State.text zone)
      [("id", .text id), ("name", .text "vm")] =
        [("id", .text id), ("name", .text "vm"), ("zone", .text zone)] := by
    rw [Dict.insertIfAbsent_of_none rfl, Dict.insert_of_gt (by decide),
      Dict.insert_of_gt (by decide)]
    rfl
  have hstate : Client.identified (machineArgs zone id)
      (State.ofJson (.object [("name", .string "vm")])) = machineState zone id := by
    rw [machineState, ← hzone, ← hid]
    rfl
  simp only [Client.read, hdef, bind, Except.bind, uniform_get, hstate]
  rfl

/-- Two machines are listed and read. -/
def machineMoves (zone name zone' name' : String) : List Move :=
  [.answer 0 (.ok ⟨[machineItem zone name, machineItem zone' name'], none, true⟩),
    .submit 0 .scope true (.value (machineState zone name)),
    .submit 0 .scope true (.value (machineState zone' name')), .submit 0 .scope true (.panic ""),
    .advance 0, .await 0, .advance 0, .await 0, .await 0, .join]

def machineScan (zone name zone' name' : String) : Scanning :=
  (start "p" [.computeInstance] 2 []).run (machineMoves zone name zone' name')

theorem machineScan_unique :
    let resources := Inventory.sorted [machine "a" "web", machine "b" "db"]
    (machineScan "a" "web" "b" "db").returned = some (.ok resources) ∧
      (∀ b ∈ (machineScan "a" "web" "b" "db").log.begun, b.IsClients) ∧
      (resources.map Inventory.key).Nodup := by
  intro resources
  have hret : (machineScan "a" "web" "b" "db").returned = some (.ok resources) := rfl
  have hclient : ∀ b ∈ (machineScan "a" "web" "b" "db").log.begun, b.IsClients := by
    intro b hb
    rcases List.mem_pair.mp hb with rfl | rfl
    · rintro _ ⟨⟩
      exact ⟨uniform, uniform_read "a" "web"⟩
    · rintro _ ⟨⟩
      exact ⟨uniform, uniform_read "b" "db"⟩
  have hdistinct : ∀ t, (machineScan "a" "web" "b" "db").scan.Distinct t := by
    intro t
    cases t <;> decide +kernel
  have hdiscerned : ∀ t, (machineScan "a" "web" "b" "db").scan.Discerned t := by
    intro t
    cases t <;> decide +kernel
  obtain ⟨_, hall⟩ := identifiers_unique "p" [.computeInstance] 2 []
    (machineMoves "a" "web" "b" "db") hret hclient hdistinct
  exact ⟨hret, hclient, (hall fun t => .inr (hdiscerned t)).1⟩

/-- Machines of one name in two zones are read at two addresses and have one identifier, and the
order of their inventory depends on which was read first. -/
theorem machineScan_collides :
    let resources := Inventory.sorted [machine "a" "web", machine "b" "web"]
    (machineScan "a" "web" "b" "web").returned = some (.ok resources) ∧
      (∀ b ∈ (machineScan "a" "web" "b" "web").log.begun, b.IsClients) ∧
      (∀ t, (machineScan "a" "web" "b" "web").scan.Distinct t) ∧
      ¬(resources.map Inventory.key).Nodup ∧
      ¬∀ other : List Resource, other.Perm resources → Inventory.sorted other = resources := by
  intro resources
  have hperm : resources.Perm [machine "a" "web", machine "b" "web"] := Inventory.sorted_perm _
  refine ⟨rfl, ?_, ?_, ?_, fun hsorted => ?_⟩
  · intro b hb
    rcases List.mem_pair.mp hb with rfl | rfl
    · rintro _ ⟨⟩
      exact ⟨uniform, uniform_read "a" "web"⟩
    · rintro _ ⟨⟩
      exact ⟨uniform, uniform_read "b" "web"⟩
  · intro t
    cases t <;> decide +kernel
  · exact fun hkeys => absurd ((hperm.map Inventory.key).nodup_iff.mp hkeys) (by decide)
  · -- the sort keeps resources of one key as they stand
    have hsame := hsorted [machine "b" "web", machine "a" "web"] (hperm.trans (.swap _ _ _)).symm
    have hstable := Inventory.sorted_stable [machine "b" "web", machine "a" "web"]
      ("google_compute_instance", "web")
    rw [hsame, Inventory.sorted_stable] at hstable
    exact absurd hstable (by decide)

end Scanning

end CloudInventory
