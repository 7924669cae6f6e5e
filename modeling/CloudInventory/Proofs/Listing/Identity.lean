import CloudInventory.Client.Basic
import CloudInventory.Proofs.Dict
import CloudInventory.Proofs.Listing.Exchanges
import CloudInventory.Proofs.State

/-! The identity of a resource. Its identifier is made of the listed item, and the client gives it
to the state it reads, so that every resource read from that state has it. Where the read needs no
more than the identifier, two items with one identifier are one remote resource. -/

namespace CloudInventory

namespace State

variable {s value : State} {key other : String}

theorem get?_set_self (h : s.entries? ≠ none) (key : String) (value : State) :
    (s.set key value).get? key = some value := by
  cases s with
  | map entries => exact Dict.find?_insert_self key value entries
  | null | bool | number | text | list => exact absurd rfl h

theorem get?_setDefault_of_some (h : s.get? key = some value) (other : String) (value' : State) :
    (s.setDefault other value').get? key = some value := by
  cases s with
  | map entries =>
    simp only [setDefault, Dict.insertIfAbsent]
    split
    · exact h
    · next habsent =>
      have hne : other ≠ key := by
        rintro rfl
        have hfind : Dict.find? other entries = some value := h
        exact habsent (by simp only [Dict.contains, hfind, Option.isSome_some])
      exact (Dict.find?_insert_of_ne hne _ _).trans h
  | null | bool | number | text | list => cases h

theorem get?_foldl_setDefault (h : s.get? key = some value) (attributes : Dict String) :
    (attributes.foldl (fun s a => s.setDefault a.1 (.text a.2)) s).get? key = some value := by
  induction attributes generalizing s with
  | nil => exact h
  | cons a attributes ih => exact ih (get?_setDefault_of_some h _ _)

theorem set_eq_self (h : s.entries? = none) (key : String) (value : State) :
    s.set key value = s := by
  cases s with
  | map entries => cases h
  | null | bool | number | text | list => rfl

theorem setDefault_eq_self (h : s.entries? = none) (key : String) (value : State) :
    s.setDefault key value = s := by
  cases s with
  | map entries => cases h
  | null | bool | number | text | list => rfl

theorem foldl_setDefault_eq_self (h : s.entries? = none) (attributes : Dict String) :
    attributes.foldl (fun s a => s.setDefault a.1 (.text a.2)) s = s := by
  induction attributes with
  | nil => rfl
  | cons a attributes ih => rw [List.foldl_cons, setDefault_eq_self h, ih]

end State

namespace Fields

variable {key : String} {rest : Fields} {entries : List (String × Json)}

theorem bothFields_ok {α β : Type} {a : Except FieldMisfit α} {b : Except FieldMisfit β}
    {c : α × β} (h : bothFields a b = .ok c) : a = .ok c.1 ∧ b = .ok c.2 := by
  cases a with
  | error => cases b <;> cases h
  | ok =>
    cases b with
    | error => cases h
    | ok =>
      obtain rfl := Except.ok.inj h
      exact ⟨rfl, rfl⟩

/-- A required text comes from its entry. -/
theorem find?_of_required_text {c : (Fields.cons key .text .required rest).Carrier}
    (h : (Fields.cons key .text .required rest).readEntries entries = .ok c) :
    Dict.find? key entries = some (.string c.1) := by
  rw [readEntries] at h
  have hhere := (bothFields_ok h).1
  cases hfind : Dict.find? key entries with
  | none => simp [hfind, Presence.absent?] at hhere
  | some v =>
    simp only [hfind] at hhere
    cases v with
    | string text =>
      obtain rfl : text = c.1 := Except.ok.inj hhere
      rfl
    | null | bool | number | array | object => cases hhere

end Fields

namespace ResourceType

variable {t : ResourceType} {resource : Resource}

theorem id_of_readMap {entries : List (String × Json)} (h : t.readMap entries = .ok resource) :
    Dict.find? "id" entries = some (.string resource.id) := by
  unfold readMap at h
  split at h
  · next c hread =>
    obtain rfl := Except.ok.inj h
    -- the identifier is the first field of every type
    cases t <;> exact Fields.find?_of_required_text hread
  · cases h

theorem exists_readMap_of_readState {place : Nat} {s : State} (h : t.readState place s = .ok resource) :
    ∃ entries, s = .map entries ∧ t.readMap (State.toEntries entries) = .ok resource := by
  cases s with
  | map entries =>
    cases hmap : t.readMap (State.toEntries entries) with
    | error misfit => simp [readState, hmap] at h
    | ok r =>
      obtain rfl : r = resource := by simpa [readState, hmap] using h
      exact ⟨entries, rfl, hmap⟩
  | null | bool | number | text | list => simp [readState] at h

theorem id_of_readState {place : Nat} {s : State} (h : t.readState place s = .ok resource) :
    s.get? "id" = some (.text resource.id) := by
  obtain ⟨entries, rfl, hmap⟩ := exists_readMap_of_readState h
  have hid := id_of_readMap hmap
  rw [State.toEntries_eq, Dict.find?_mapValues, Option.map_eq_some_iff] at hid
  obtain ⟨value, hvalue, htext⟩ := hid
  cases value with
  | text s =>
    obtain rfl := Json.string.inj htext
    exact hvalue
  | null | bool | number | list | map => cases htext

end ResourceType

namespace Client

theorem id_of_identified {args : ReadArgs} {s value : State}
    (h : (identified args s).get? "id" = some value) : value = .text args.id := by
  cases hmap : s.entries? with
  | none =>
    rw [identified, State.set_eq_self hmap, State.foldl_setDefault_eq_self hmap] at h
    cases s with
    | map entries => cases hmap
    | null | bool | number | text | list => cases h
  | some entries =>
    have hset : (s.set "id" (.text args.id)).get? "id" = some (.text args.id) :=
      State.get?_set_self (hmap ▸ Option.some_ne_none entries) "id" (.text args.id)
    have hid := State.get?_foldl_setDefault hset args.attributes
    exact Option.some.inj (h.symm.trans hid)

/-- A resource that was read has the identifier that it was read by. -/
theorem id_of_read {c : Client} {args : ReadArgs} {s : State} (h : c.read args = .ok s)
    {t : ResourceType} {place : Nat} {resource : Resource}
    (hread : t.readState place s = .ok resource) : resource.id = args.id := by
  have hid := ResourceType.id_of_readState hread
  cases hdef : ResourceType.definitionOf args.type with
  | error e => simp [Client.read, hdef, bind, Except.bind] at h
  | ok d =>
    cases hget : c.get (c.url d.service (d.readPathOf c.project args)) with
    | error e => simp [Client.read, hdef, hget, bind, Except.bind] at h
    | ok v =>
      obtain rfl : identified args (State.ofJson v) = s := by
        simpa [Client.read, hdef, hget, bind, Except.bind, pure, Except.pure] using h
      exact State.text.inj (id_of_identified hid)

end Client

namespace ResourceType

/-- The read of a resource needs no more than its identifier. -/
def readById (t : ResourceType) : Bool := t.definition.attributes.isEmpty && t.nesting?.isNone

end ResourceType

namespace Listing

variable {t : ResourceType} {x : Option String × Json} {args : ReadArgs}

theorem type_of_readArgs {d : Definition} {type : String} {item : Json}
    (h : d.readArgs type item = .ok args) :
    args.type = type ∧ (d.attributes = [] → args.attributes = []) := by
  cases hid : itemField item d.idField type with
  | error e => simp [Definition.readArgs, hid, bind, Except.bind] at h
  | ok id =>
    cases hattrs : Definition.itemAttributes type item d.attributes with
    | error e => simp [Definition.readArgs, hid, hattrs, bind, Except.bind] at h
    | ok attributes =>
      obtain rfl : ⟨type, shortName id, attributes⟩ = args := by
        simpa [Definition.readArgs, hid, hattrs, bind, Except.bind, pure, Except.pure] using h
      refine ⟨rfl, fun hnone => ?_⟩
      rw [hnone] at hattrs
      exact (Except.ok.inj hattrs).symm

theorem type_of_identify (h : identify t x = .ok args) : args.type = t.name := by
  unfold identify at h
  split at h
  · next n parent _ _ =>
    cases hargs : t.definition.readArgs t.name x.2 with
    | error e => simp [childArgs, hargs, bind, Except.bind] at h
    | ok own =>
      cases hid : childId t parent x.2 own.id with
      | error e => simp [childArgs, hargs, hid, bind, Except.bind] at h
      | ok id =>
        obtain rfl : { own with id, attributes := Dict.insert n.parentKey parent own.attributes } =
            args := by
          simpa [childArgs, hargs, hid, bind, Except.bind, pure, Except.pure] using h
        exact (type_of_readArgs hargs).1
  · exact (type_of_readArgs h).1

theorem attributes_of_identify (ht : t.readById = true) (h : identify t x = .ok args) :
    args.attributes = [] := by
  simp only [ResourceType.readById, Bool.and_eq_true, List.isEmpty_iff, Option.isNone_iff_eq_none]
    at ht
  obtain ⟨hnone, hflat⟩ := ht
  simp only [identify, hflat] at h
  exact (type_of_readArgs h).2 hnone

/-- Listed items of such a type that share an identifier are read alike. -/
theorem eq_of_id_eq (ht : t.readById = true) {y : Option String × Json} {args' : ReadArgs}
    (h : identify t x = .ok args) (h' : identify t y = .ok args') (hid : args.id = args'.id) :
    args = args' := by
  have htype : args.type = args'.type := (type_of_identify h).trans (type_of_identify h').symm
  have hattrs : args.attributes = args'.attributes :=
    (attributes_of_identify ht h).trans (attributes_of_identify ht h').symm
  cases args
  cases args'
  simp_all

end Listing

end CloudInventory
