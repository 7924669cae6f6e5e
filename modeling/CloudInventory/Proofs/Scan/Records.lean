import CloudInventory.Proofs.Scan.Completeness
import CloudInventory.Proofs.Template.Paths

/-! The addresses of record sets. A record is read in its zone, at what stands behind the last slash
of its name and of its type, while its identifier is made of all of them. -/

namespace CloudInventory

namespace Text

variable {separator : Char} {cs : List Char}

theorem not_mem_afterLast (separator : Char) (cs : List Char) :
    separator ∉ afterLast separator cs := by
  intro h
  have hne := List.mem_takeWhile_imp (List.mem_reverse.mp h)
  simp at hne

theorem afterLast_eq_self_iff : afterLast separator cs = cs ↔ separator ∉ cs := by
  constructor
  · intro h
    exact h ▸ not_mem_afterLast separator cs
  · intro h
    have hall : cs.reverse.takeWhile (· ≠ separator) = cs.reverse := by
      refine List.takeWhile_eq_self_iff.mpr fun c hc => decide_eq_true ?_
      rintro rfl
      exact h (List.mem_reverse.mp hc)
    rw [afterLast, hall, List.reverse_reverse]

end Text

theorem shortName_eq_self_iff {s : String} : shortName s = s ↔ '/' ∉ s.toList := by
  rw [← Text.afterLast_eq_self_iff, shortName, ← String.toList_inj, String.toList_ofList]

namespace Listing

variable {t : ResourceType} {n : Nesting} {project : String} {ex : List Exchange}
  {listed : List (Option String × Json)} {x : Option String × Json}

theorem Below.named {parents : List Json} (h : Below t n project parents ex listed)
    (hx : x ∈ listed) : ∃ parent, x.1 = some parent := by
  induction h with
  | start => cases hx
  | @next _ _ name _ _ items _ _ _ _ ih =>
    rcases List.mem_append.mp hx with hx | hx
    · exact ih hx
    · obtain ⟨item, _, rfl⟩ := List.mem_map.mp hx
      exact ⟨name, rfl⟩

theorem Lists.named (hn : t.nesting? = some n) (h : Lists t project ex listed) (hx : x ∈ listed) :
    ∃ parent, x.1 = some parent := by
  cases h with
  | flat hflat => cases hflat.symm.trans hn
  | nested _ _ hbelow => exact hbelow.named hx

end Listing

structure Record where
  zone : String
  name : String
  type : String
deriving DecidableEq

namespace Record

open Template (Serves recordSet_asks_iff)
open Text (percentDecoded? splitAt)
open Listing (identify)

/-- The record that an item stands for, under the name of its zone. -/
structure ToldBy (x : Option String × Json) (r : Record) : Prop where
  zone : x.1 = some r.zone
  name : itemField x.2 "name" ResourceType.dnsRecordSet.name = .ok r.name
  type : itemField x.2 "type" ResourceType.dnsRecordSet.name = .ok r.type

def args (r : Record) : ReadArgs :=
  ⟨ResourceType.dnsRecordSet.name, recordSetId r.zone r.name r.type,
    [("managedZone", r.zone), ("name", shortName r.name), ("type", shortName r.type)]⟩

def address (project : String) (r : Record) : String :=
  ResourceType.dnsRecordSet.definition.readPathOf project r.args

def short (r : Record) : Record := { r with name := shortName r.name, type := shortName r.type }

def Plain (r : Record) : Prop := '/' ∉ r.name.toList ∧ '/' ∉ r.type.toList

instance (r : Record) : Decidable r.Plain := inferInstanceAs (Decidable (_ ∧ _))

/-- The last segments of an address, decoded, are a zone, `rrsets`, a name and a type. -/
def At (address : String) (r : Record) : Prop :=
  [some r.zone, some "rrsets", some r.name, some r.type] <:+
    (splitAt '/' address.toList).map percentDecoded?

variable {q r : Record} {project : String} {x : Option String × Json}

theorem short_eq_self_iff : r.short = r ↔ r.Plain := by
  cases r
  simp [short, Plain, shortName_eq_self_iff]

theorem identify_eq (zone : String) (item : Json) :
    identify .dnsRecordSet (some zone, item) = do
      let name ← itemField item "name" ResourceType.dnsRecordSet.name
      let type ← itemField item "type" ResourceType.dnsRecordSet.name
      return args ⟨zone, name, type⟩ := by
  have hidentify : identify .dnsRecordSet (some zone, item) =
      Listing.childArgs .dnsRecordSet ⟨.dnsManagedZone, "name", "managedZone"⟩ zone item := rfl
  have hidField : ResourceType.dnsRecordSet.definition.idField = "name" := rfl
  have hattributes : ResourceType.dnsRecordSet.definition.attributes =
      [("name", "name"), ("type", "type")] := rfl
  rw [hidentify, Listing.childArgs, Definition.readArgs, hidField, hattributes]
  cases hname : itemField item "name" ResourceType.dnsRecordSet.name with
  | error e => rfl
  | ok name =>
    cases htype : itemField item "type" ResourceType.dnsRecordSet.name with
    | error e => simp [Definition.itemAttributes, hname, htype, bind, Except.bind]
    | ok type =>
      simp only [Definition.itemAttributes, Listing.childId, hname, htype, bind, Except.bind, pure,
        Except.pure]
      rfl

theorem toldBy_of_identify {args : ReadArgs} (hzone : ∃ zone, x.1 = some zone)
    (h : identify .dnsRecordSet x = .ok args) : ∃ r, ToldBy x r ∧ r.args = args := by
  obtain ⟨_, item⟩ := x
  obtain ⟨zone, rfl⟩ := hzone
  rw [identify_eq] at h
  obtain ⟨name, hname, h⟩ := Listing.bind_ok h
  obtain ⟨type, htype, h⟩ := Listing.bind_ok h
  exact ⟨⟨zone, name, type⟩, ⟨rfl, hname, htype⟩, Except.ok.inj h⟩

theorem serves (r : Record) : Serves .dnsRecordSet r.args where
  ascending := by
    have hkeys : ["managedZone", "name", "type"].Pairwise (· < ·) := by decide +kernel
    exact List.pairwise_map.mp (show (r.args.attributes.map (·.1)).Pairwise (· < ·) from hkeys)
  named name hasks := by
    rcases (recordSet_asks_iff name).mp hasks with rfl | rfl | rfl | rfl
    · exact .inl rfl
    all_goals exact .inr (.inr (by simp [args, Dict.keys]))

theorem segments_address (project : String) (r : Record) :
    (splitAt '/' (r.address project).toList).map percentDecoded? =
      [some "projects", some project, some "managedZones", some r.zone, some "rrsets",
        some (shortName r.name), some (shortName r.type)] := by
  have hdecoded := (r.serves.faithful project).decoded (Template.registered_regular _).1
  have hsegments : Template.segmentsOf ResourceType.dnsRecordSet.definition.readPath = [
      .text "projects".toList (by decide), .hole "project" (by decide),
      .text "managedZones".toList (by decide), .hole "managedZone" (by decide),
      .text "rrsets".toList (by decide), .hole "name" (by decide), .hole "type" (by decide)] := rfl
  have hprojects : percentDecoded? "projects".toList = some "projects" := by decide +kernel
  have hzones : percentDecoded? "managedZones".toList = some "managedZones" := by decide +kernel
  have hrecords : percentDecoded? "rrsets".toList = some "rrsets" := by decide +kernel
  rw [address, hdecoded, hsegments]
  simp only [List.map_cons, List.map_nil, Template.Part.decoded?, hprojects, hzones, hrecords]
  rfl

theorem at_address_iff : At (r.address project) q ↔ q = r.short := by
  rw [At, segments_address, short]
  constructor
  · intro h
    have hlast : [some r.zone, some "rrsets", some (shortName r.name), some (shortName r.type)] <:+
        [some "projects", some project, some "managedZones", some r.zone, some "rrsets",
          some (shortName r.name), some (shortName r.type)] :=
      List.suffix_append [some "projects", some project, some "managedZones"] _
    have hsame := (List.suffix_of_suffix_length_le h hlast (Nat.le_refl 4)).eq_of_length rfl
    cases q
    simpa using hsame
  · rintro rfl
    exact List.suffix_append [some "projects", some project, some "managedZones"] _

/-- An address has all of a record but what stands before the last slashes. -/
theorem address_eq_iff : q.address project = r.address project ↔ q.short = r.short := by
  constructor
  · intro h
    have hq : At (r.address project) q.short := h ▸ at_address_iff.mpr rfl
    exact at_address_iff.mp hq
  · intro h
    obtain ⟨hzone, hname, htype⟩ := Record.mk.inj h
    refine q.serves.readPathOf_congr r.serves fun name hasks => ?_
    have hattributes : q.args.attributes = r.args.attributes := by
      simp only [args, hzone, hname, htype]
    rcases (recordSet_asks_iff name).mp hasks with rfl | rfl | rfl | rfl
    all_goals simp [Definition.readVariables, Dict.find?, hattributes]

end Record

namespace Survey

open Listing (Lists)

variable {project : String} {types : List ResourceType} {limit : Nat} {alerts : Alerts}
  {u : Survey} {i : Nat} {progress : Progress}

theorem records_of_listed {ex : List Exchange} {listed : List (Option String × Json)}
    {args : List ReadArgs} (h : Lists .dnsRecordSet project ex listed)
    (hargs : listed.Forall₂ (Listing.identify .dnsRecordSet · = .ok ·) args) :
    ∃ records : List Record, listed.Forall₂ Record.ToldBy records ∧
      records.map Record.args = args := by
  have hnamed : ∀ x ∈ listed, ∃ zone, x.1 = some zone := fun x hx => h.named rfl hx
  clear h
  induction hargs with
  | nil => exact ⟨[], .nil, rfl⟩
  | @cons x _ _ _ hx _ ih =>
    obtain ⟨hzone, hothers⟩ := List.forall_mem_cons.mp hnamed
    obtain ⟨r, htold, rfl⟩ := Record.toldBy_of_identify hzone hx
    obtain ⟨records, hrecords, rfl⟩ := ih hothers
    exact ⟨r :: records, .cons htold hrecords, rfl⟩

/-- The reads of record sets are those of listed records, in their order. Each has the identifier
of its record, and the address of it where its name and type have no slash; records are read at one
address if they differ in nothing but what stands before the last slashes. -/
theorem records_addressed (h : Reached project types limit alerts u)
    (hi : u.scan.suppliers[i]? = some ⟨.dnsRecordSet, progress⟩) :
    (u.log.begunBy i ≠ [] → ∃ listed records,
      Lists .dnsRecordSet project (u.log.heardBy i) listed ∧
        listed.Forall₂ Record.ToldBy records ∧
        ((u.log.begunBy i).map (·.args)).Sublist (records.map Record.args)) ∧
    ∀ r : Record,
      r.args.id = recordSetId r.zone r.name r.type ∧
      (r.At (r.address project) ↔ r.Plain) ∧
      (∀ q : Record, q.At (r.address project) ↔ q = r.short) ∧
      (∀ q : Record, q.address project = r.address project ↔ q.short = r.short) ∧
      ∀ q : Record, q.Plain → r.Plain → q.address project = r.address project → q = r := by
  refine ⟨fun hb => ?_, fun r => ⟨rfl, ?_, fun q => Record.at_address_iff,
    fun q => Record.address_eq_iff, fun q hq hr haddress => ?_⟩⟩
  · obtain ⟨_, _, args, hlisted⟩ := h.sound.listed_of_begun hi hb
    obtain ⟨listed, hlists, hargs⟩ := hlisted.heard.stands.done_ok
    obtain ⟨records, hrecords, rfl⟩ := records_of_listed hlists hargs
    exact ⟨listed, records, hlists, hrecords, hlisted.begun⟩
  · rw [Record.at_address_iff, ← Record.short_eq_self_iff, eq_comm]
  · have hshort := Record.address_eq_iff.mp haddress
    rwa [Record.short_eq_self_iff.mpr hq, Record.short_eq_self_iff.mpr hr] at hshort

def nameServers (name : String) : Record := ⟨"reverse", name, "NS"⟩

def recordItem (r : Record) : Json :=
  .object [("name", .string r.name), ("type", .string r.type)]

/-- One zone is listed with two records, which are read. -/
def recordMoves (q r : Record) : List Move :=
  [.answer 0 (.ok ⟨[.object [("name", .string q.zone)]], none, true⟩),
    .answer 0 (.ok ⟨[recordItem q, recordItem r], none, true⟩),
    .submit 0 .scope true (.value .null), .submit 0 .scope true (.value .null)]

def recordSurvey (q r : Record) : Survey :=
  (start "p" [.dnsRecordSet] 2 []).play (recordMoves q r)

def delegation : Record := nameServers "0/25.2.0.192.in-addr.arpa."

def otherDelegation : Record := nameServers "128/25.2.0.192.in-addr.arpa."

theorem recordSurvey_addressed :
    let u := recordSurvey (nameServers "2.0.192.in-addr.arpa.") delegation
    Reached "p" [.dnsRecordSet] 2 [] u ∧
      (∃ listed records, Lists .dnsRecordSet "p" (u.log.heardBy 0) listed ∧
        listed.Forall₂ Record.ToldBy records ∧
        ((u.log.begunBy 0).map (·.args)).Sublist (records.map Record.args)) ∧
      (nameServers "2.0.192.in-addr.arpa.").At
        ((nameServers "2.0.192.in-addr.arpa.").address "p") := by
  intro u
  have hr : Reached "p" [.dnsRecordSet] 2 [] u := reaches_play (by decide)
  have hi : u.scan.suppliers[0]? = some ⟨.dnsRecordSet, .submitting 0 []⟩ := rfl
  obtain ⟨hreads, haddressed⟩ := records_addressed hr hi
  have hplain : (nameServers "2.0.192.in-addr.arpa.").Plain := by decide +kernel
  exact ⟨hr, hreads (by decide), (haddressed _).2.1.mpr hplain⟩

/-- Two delegations of one zone have identifiers of their own, and are read at one address, that of
neither. -/
theorem recordSurvey_misdirected :
    let u := recordSurvey delegation otherDelegation
    Reached "p" [.dnsRecordSet] 2 [] u ∧
      (u.log.begunBy 0).map (·.args) = [delegation.args, otherDelegation.args] ∧
      delegation.args.id ≠ otherDelegation.args.id ∧
      delegation.address "p" = otherDelegation.address "p" ∧
      ¬delegation.At (delegation.address "p") ∧
      ¬otherDelegation.At (otherDelegation.address "p") := by
  intro u
  have hshort : delegation.short = otherDelegation.short := by decide +kernel
  have hother : otherDelegation ≠ otherDelegation.short := by decide +kernel
  have hown : delegation ≠ delegation.short := by decide +kernel
  have haddress : delegation.address "p" = otherDelegation.address "p" :=
    Record.address_eq_iff.mpr hshort
  refine ⟨reaches_play (by decide), rfl, by decide +kernel, haddress, ?_, ?_⟩
  · intro hat
    exact hown (Record.at_address_iff.mp hat)
  · intro hat
    exact hother (Record.at_address_iff.mp hat)

end Survey

end CloudInventory
