import CloudInventory.Proofs.Client.States
import CloudInventory.Proofs.Listing.Nested
import CloudInventory.Proofs.Scan.Identity

/-! Identifiers of what a supplier brings. A state that was read keeps the data of the service under
the identifier from the listing, so that the resources of a supplier have the identifiers of its
listed items, but for the buckets without notifications. -/

namespace CloudInventory

open Listing (Lists identify)

namespace State

/-- Whether a state lists a notification. -/
def notifies (s : State) : Bool :=
  match s.get? "items" with
  | some (.list (_ :: _)) => true
  | _ => false

theorem notifies_of_find? {entries : Dict State} {value : State}
    (h : Dict.find? "items" entries = some value) {vs : List Json}
    (hvalue : value.toJson = .array vs) : (map entries).notifies = !vs.isEmpty := by
  cases value with
  | list items =>
    obtain rfl := Json.array.inj hvalue
    cases items <;> simp [notifies, get?, h, toItems]
  | null | bool | number | text | map => cases hvalue

theorem notifies_of_find?_eq_none {entries : Dict State} (h : Dict.find? "items" entries = none) :
    (map entries).notifies = false := by simp [notifies, get?, h]

end State

theorem Fields.defaulted_cases {key : String} {shape : Shape} {rest : Fields}
    {entries : List (String × Json)} {c : (Fields.cons key shape .defaulted rest).Carrier}
    (h : (Fields.cons key shape .defaulted rest).readEntries entries = .ok c) :
    (Dict.find? key entries = none ∧ c.1 = none) ∨
      ∃ v a, Dict.find? key entries = some v ∧ shape.read v = .ok a ∧ c.1 = some a := by
  rw [readEntries] at h
  have hhere := (bothFields_ok h).1
  cases hfind : Dict.find? key entries with
  | none =>
    simp only [hfind, Presence.absent?] at hhere
    exact .inl ⟨rfl, (Except.ok.inj hhere).symm⟩
  | some v =>
    cases hread : shape.read v with
    | error e => simp [hfind, Presence.readWith, Presence.null?, hread, Except.map] at hhere
    | ok a =>
      simp [hfind, Presence.readWith, Presence.null?, hread, Except.map] at hhere
      exact .inr ⟨v, a, rfl, hread, hhere.symm⟩

theorem isEmpty_of_readEach {α : Type} {read : Json → Except Misfit α} {vs : List Json}
    {all : List α} (h : readEach read vs = .ok all) : all.isEmpty = vs.isEmpty := by
  cases vs with
  | nil =>
    obtain rfl := Except.ok.inj h
    rfl
  | cons v vs =>
    unfold readEach at h
    split at h
    · cases h
    · cases hrest : readEach read vs with
      | error e => simp [hrest, Except.map] at h
      | ok rest =>
        rw [hrest] at h
        obtain rfl := Except.ok.inj h
        rfl

namespace ResourceType

variable {t : ResourceType} {resource : Resource}

theorem isConfigured_of_readMap {entries : Dict State}
    (h : readMap .storageBucketNotification (State.toEntries entries) = .ok resource) :
    resource.isConfigured = (State.map entries).notifies := by
  unfold readMap at h
  split at h
  · next c hread =>
    obtain rfl := Except.ok.inj h
    obtain ⟨id, items, ⟨⟩⟩ := c
    have hfind := Dict.find?_mapValues State.toJson "items" entries
    rw [← State.toEntries_eq] at hfind
    rcases Fields.defaulted_cases (Fields.bothFields_ok hread).2 with
      ⟨hnone, hitems⟩ | ⟨v, all, hsome, hall, hitems⟩
    · rw [hfind, Option.map_eq_none_iff] at hnone
      obtain rfl : items = none := hitems
      exact (State.notifies_of_find?_eq_none hnone).symm
    · rw [hfind, Option.map_eq_some_iff] at hsome
      obtain ⟨value, hvalue, rfl⟩ := hsome
      obtain rfl : items = some all := hitems
      cases hjson : value.toJson with
      | array vs =>
        rw [hjson] at hall
        have hempty := isEmpty_of_readEach hall
        rw [State.notifies_of_find? hvalue hjson, ← hempty]
        simp [ofFields, StorageBucketNotification.ofFields, Resource.isConfigured]
      | _ => 
        rw [hjson] at hall
        cases hall
  · cases h

/-- A bucket is in the inventory if its state lists a notification, and everything else is. -/
theorem isConfigured_of_readState {place : Nat} {s : State}
    (h : t.readState place s = .ok resource) :
    resource.isConfigured = (t != .storageBucketNotification || s.notifies) := by
  obtain ⟨entries, rfl, hmap⟩ := exists_readMap_of_readState h
  by_cases ht : t = .storageBucketNotification
  · subst ht
    exact isConfigured_of_readMap hmap
  · obtain rfl := readMap_type hmap
    rw [bne_iff_ne.mpr ht, Bool.true_or]
    cases resource with
    | storageBucketNotification r => exact absurd rfl ht
    | _ => rfl

end ResourceType

namespace Listing

variable {t : ResourceType} {x : Option String × Json} {args : ReadArgs}

/-- The identifier of a listed item: its name in short, or for a record set its zone, name and
type. -/
def identifier? (t : ResourceType) (x : Option String × Json) : Option String :=
  match t, x.1 with
  | .dnsRecordSet, some zone => do
    let name ← text? x.2 "name"
    let type ← text? x.2 "type"
    return recordSetId zone name type
  | t, _ => (text? x.2 t.definition.idField).map shortName

theorem text?_of_itemField {item : Json} {field type s : String}
    (h : itemField item field type = .ok s) : text? item field = some s := by
  cases htext : text? item field with
  | none =>
    rw [itemField_of_none htext] at h
    cases h
  | some s' =>
    rw [itemField_of_some htext] at h
    exact congrArg some (Except.ok.inj h)

theorem id_of_readArgs {d : Definition} {type : String} {item : Json}
    (h : d.readArgs type item = .ok args) :
    (text? item d.idField).map shortName = some args.id := by
  obtain ⟨id, hid, h⟩ := bind_ok h
  obtain ⟨attributes, _, h⟩ := bind_ok h
  obtain rfl := Except.ok.inj h
  rw [text?_of_itemField hid]
  rfl

theorem identifier_of_identify (h : identify t x = .ok args) :
    identifier? t x = some args.id := by
  obtain ⟨parent?, item⟩ := x
  cases hn : t.nesting? with
  | none =>
    have hargs : t.definition.readArgs t.name item = .ok args := by
      simpa only [identify, hn] using h
    have hid := id_of_readArgs hargs
    cases t <;> first | exact hid | cases hn
  | some n =>
    cases parent? with
    | none =>
      have hargs : t.definition.readArgs t.name item = .ok args := by
        simpa only [identify, hn] using h
      have hid := id_of_readArgs hargs
      cases t <;> exact hid
    | some parent =>
      rw [identify_nested hn] at h
      obtain ⟨own, hown, h⟩ := bind_ok h
      obtain ⟨id, hid, h⟩ := bind_ok h
      obtain rfl := Except.ok.inj h
      have hshort := id_of_readArgs hown
      cases t with
      | dnsRecordSet =>
        obtain ⟨name, hname, hid⟩ := bind_ok hid
        obtain ⟨type, htype, hid⟩ := bind_ok hid
        obtain rfl := Except.ok.inj hid
        simp only [identifier?, text?_of_itemField hname, text?_of_itemField htype]
        rfl
      | serviceAccountKey =>
        obtain rfl := Except.ok.inj hid
        exact hshort
      | _ => cases hn

end Listing

/-- Whether a read has come to something that belongs into the inventory. -/
def Read.brings (t : ResourceType) (b : Read) : Bool :=
  match b.ending with
  | .value state => t != .storageBucketNotification || state.notifies
  | _ => false

namespace Survey

variable {project : String} {types : List ResourceType} {limit : Nat} {alerts : Alerts}
  {u : Survey} {i : Nat} {t : ResourceType} {reads : List Read} {found : List Resource}

theorem ids_of_yields (h : reads.Forall₂ (fun b => Yields t b.ending) found)
    (hclient : ∀ b ∈ reads, b.IsClients) :
    (found.filter Resource.isConfigured).map Resource.id =
      (reads.filter (·.brings t)).map (·.args.id) := by
  induction h with
  | nil => rfl
  | @cons b resource reads found hb _ ih =>
    obtain ⟨state, hvalue, _, hread⟩ := hb
    obtain ⟨client, hstate⟩ := hclient b List.mem_cons_self state hvalue
    have hid : resource.id = b.args.id := Client.id_of_read hstate (hread 0)
    have hbrings : resource.isConfigured = b.brings t := by
      rw [Read.brings, hvalue]
      exact ResourceType.isConfigured_of_readState (hread 0)
    have hrest := ih fun c hc => hclient c (List.mem_cons_of_mem _ hc)
    cases hb : b.brings t with
    | true => simp [hbrings, hb, hid, hrest]
    | false => simp [hbrings, hb, hrest]

theorem brings_of_yields (h : reads.Forall₂ (fun b => Yields t b.ending) found)
    (ht : t ≠ .storageBucketNotification) : reads.filter (·.brings t) = reads := by
  refine List.filter_eq_self.mpr fun b hb => ?_
  obtain ⟨resource, _, state, hvalue, _⟩ := exists_of_forall₂ h.flip hb
  simp [Read.brings, hvalue, ht]

/-- A read gives the object that the service answers with, under the identifier that it was asked
for and with the attributes that the object lacks; a value that is no object stays as it is and is
no resource. So the resources that a supplier brings without an alert have the identifiers of its
listed items, each as often, or for notifications those of the buckets that have one. -/
theorem identifiers_kept :
    (∀ (c : Client) (t : ResourceType) (args : ReadArgs) (v : Json), args.type = t.name →
      c.get (c.url t.definition.service (t.definition.readPathOf c.project args)) = .ok v →
      (∀ entries, v = .object entries → ∃ m : Dict State, c.read args = .ok (.map m) ∧
        m.Ascending ∧ ∀ key, Dict.find? key m = if key = "id" then some (.text args.id) else
          ((Dict.find? key entries).map State.ofJson).or
            ((Dict.find? key args.attributes).map State.text)) ∧
      (v.entries? = none → c.read args = .ok (State.ofJson v) ∧
        (∀ place, t.readState place (State.ofJson v) = .error (.deserialize t.name
          s!"value #{place} is a {(State.ofJson v).kind}, expected a map")) ∧
        ∀ states, State.ofJson v ∈ states → ∃ e, t.readStates states = .error e)) ∧
    ∀ project types limit alerts u, Reached project types limit alerts u →
      ∀ (i : Nat) t resources, u.scan.suppliers[i]? = some ⟨t, .finished (.ok resources)⟩ →
      u.log.sentBy i = [] → (∀ b ∈ u.log.begunBy i, b.IsClients) →
      ∃ listed, Lists t project (u.log.heardBy i) listed ∧
        listed.Forall₂ (fun x b => identify t x = .ok b.args ∧
          Listing.identifier? t x = some b.args.id) (u.log.begunBy i) ∧
        (resources.map Resource.id).Perm
          (((u.log.begunBy i).filter (·.brings t)).map (·.args.id)) ∧
        (t ≠ .storageBucketNotification → (resources.map fun r => some r.id).Perm
          (listed.map (Listing.identifier? t))) := by
  refine ⟨fun c t args v htype hget => ⟨?_, fun hv => ⟨?_, fun place => ?_, fun states hs => ?_⟩⟩,
    fun project types limit alerts u h i t resources hi hsent hclient => ?_⟩
  · rintro entries rfl
    obtain ⟨m, hm, hascending, hfind⟩ :=
      Client.exists_identified args (Client.ascending_of_get hget)
    exact ⟨m, by rw [Client.read_eq htype hget, hm], hascending, hfind⟩
  · rw [Client.read_eq htype hget,
      Client.identified_of_not_map ((Client.entries?_ofJson v).mpr hv)]
  · exact ResourceType.readState_of_not_map ((Client.entries?_ofJson v).mpr hv) t place
  · have hmap := (Client.entries?_ofJson v).mpr hv
    exact ResourceType.readStatesFrom_of_error hs
      (fun place => ⟨_, ResourceType.readState_of_not_map hmap t place⟩) 0
  · have hs := h.sound
    obtain ⟨r, states, hlisted, hphase, hread⟩ := hs.settled_of_ok hi hsent
    obtain ⟨listed, hlists, hargs⟩ := hlisted.heard.stands.done_ok
    obtain ⟨found, hfound, hperm⟩ := hs.readings_perm hlisted.opened hphase hread
    have hitems : listed.Forall₂ (fun x b => identify t x = .ok b.args ∧
        Listing.identifier? t x = some b.args.id) (u.log.begunBy i) :=
      (List.forall₂_map_right_iff.mp hargs).imp fun x b hx =>
        ⟨hx, Listing.identifier_of_identify hx⟩
    have hids : (resources.map Resource.id).Perm
        (((u.log.begunBy i).filter (·.brings t)).map (·.args.id)) :=
      ids_of_yields hfound hclient ▸ hperm.map _
    refine ⟨listed, hlists, hitems, hids, fun ht => ?_⟩
    have hnames : listed.map (Listing.identifier? t) =
        (u.log.begunBy i).map fun b => some b.args.id :=
      List.forall₂_eq_eq_eq ▸ List.forall₂_map_left_iff.mpr
        (List.forall₂_map_right_iff.mpr (hitems.imp fun _ _ hx => hx.2))
    rw [brings_of_yields hfound ht] at hids
    have hsome := hids.map some
    rw [List.map_map, List.map_map] at hsome
    exact hnames ▸ hsome

/-- Every address holds one text. -/
def holding (body : String) : Client := ⟨"p", none, .ok "token", fun _ _ => .ok ⟨200, body⟩⟩

theorem holding_get {body : String} {w : Json} (h : Json.written? body = some w) (url : String) :
    (holding body).get url = .ok w.inKeyOrder :=
  Client.Writes.get_eq ⟨"token", ⟨200, body⟩, rfl, rfl, rfl, h⟩

def silentBucket : String := "\x7b\"items\":[]\x7d"

def notifyingBody : String := "\x7b\"items\":[\x7b\"id\":\"1\",\"topic\":\"t\"\x7d]\x7d"

def numberedBody : String := "\x7b\"id\":7,\"zone\":null\x7d"

def machineRead : ReadArgs :=
  ⟨"google_compute_instance", "vm", [("id", "x"), ("rank", "r"), ("zone", "a")]⟩

theorem bucketSurvey_identified :
    (∃ m : Dict State, (holding numberedBody).read machineRead = .ok (.map m) ∧
      Dict.find? "id" m = some (.text "vm") ∧ Dict.find? "zone" m = some .null ∧
      Dict.find? "rank" m = some (.text "r") ∧ Dict.find? "name" m = none) ∧
    (∃ e, ResourceType.computeInstance.readStates [.null] = .error e) ∧
    [notifyingBucket.id].Perm
      (((bucketSurvey.log.begunBy 0).filter (·.brings .storageBucketNotification)).map
        (·.args.id)) := by
  obtain ⟨hreads, hbrings⟩ := identifiers_kept
  refine ⟨?_, ?_, ?_⟩
  · have hbody : Json.written? numberedBody =
        some (.object [("id", .int 7), ("zone", .null)]) := by decide +kernel
    obtain ⟨hobject, _⟩ := hreads (holding numberedBody) .computeInstance machineRead _ rfl
      (holding_get hbody _)
    obtain ⟨m, hm, _, hfind⟩ := hobject [("id", .int 7), ("zone", .null)] (by decide +kernel)
    exact ⟨m, hm, hfind "id", hfind "zone", hfind "rank", hfind "name"⟩
  · have hbody : Json.written? "null" = some .null := by decide +kernel
    obtain ⟨_, hnull⟩ := hreads (holding "null") .computeInstance machineRead _ rfl
      (holding_get hbody _)
    exact (hnull rfl).2.2 [.null] List.mem_cons_self
  · have hr : Reached "p" [.storageBucketNotification, .computeNetwork] 1 [] bucketSurvey :=
      reaches_play (by decide)
    have hsilent : Json.written? silentBucket = some (.object [("items", .array [])]) := by
      decide +kernel
    have hnotifying : Json.written? notifyingBody = some (.object [("items",
        .array [.object [("id", .string "1"), ("topic", .string "t")]])]) := by decide +kernel
    have hclient : ∀ b ∈ bucketSurvey.log.begunBy 0, b.IsClients := by
      intro b hb
      rcases List.mem_pair.mp hb with rfl | rfl
      · rintro _ ⟨⟩
        exact ⟨holding silentBucket, Client.read_eq (t := .storageBucketNotification) rfl
          (holding_get hsilent _)⟩
      · rintro _ ⟨⟩
        exact ⟨holding notifyingBody, Client.read_eq (t := .storageBucketNotification) rfl
          (holding_get hnotifying _)⟩
    obtain ⟨_, _, _, hids, _⟩ := hbrings _ _ _ _ _ hr 0 .storageBucketNotification
      [notifyingBucket] rfl rfl hclient
    exact hids

end Survey

end CloudInventory
