import CloudInventory.Proofs.Client.Answers
import CloudInventory.Proofs.Resource.Reading

/-! States as a client reads them. The state of an object has the identifier that it was read by,
all other data of the service and, where the service has no data, the attributes of the listing; any
other value is left as it is and describes no resource. -/

namespace CloudInventory

namespace Dict

variable {α : Type} {d : Dict α}

theorem find?_insertIfAbsent (key other : String) (a : α) (d : Dict α) :
    find? other (insertIfAbsent key a d) =
      (find? other d).or (if key = other then some a else none) := by
  by_cases hkey : key = other
  · subst hkey
    cases hfind : find? key d with
    | some b => simp [insertIfAbsent, contains, hfind]
    | none => simp [insertIfAbsent, contains, hfind, find?_insert_self]
  · rw [if_neg hkey, Option.or_none, insertIfAbsent]
    split
    · rfl
    · exact find?_insert_of_ne hkey a d

theorem Ascending.insertIfAbsent (h : Ascending d) (key : String) (a : α) :
    Ascending (Dict.insertIfAbsent key a d) := by
  rw [Dict.insertIfAbsent]
  split
  · exact h
  · exact h.insert key a

end Dict

namespace ResourceType

theorem definitionOf_name (t : ResourceType) : definitionOf t.name = .ok t.definition := by
  cases t <;> rfl

/-- Only a map describes a resource. -/
theorem readState_of_not_map {s : State} (h : s.entries? = none) (t : ResourceType) (place : Nat) :
    t.readState place s =
      .error (.deserialize t.name s!"value #{place} is a {s.kind}, expected a map") := by
  cases s with
  | map entries => cases h
  | null | bool | number | text | list => rfl

theorem readStatesFrom_of_error {t : ResourceType} {states : List State} {s : State}
    (hs : s ∈ states) (herror : ∀ place, ∃ e, t.readState place s = .error e) (place : Nat) :
    ∃ e, t.readStatesFrom place states = .error e := by
  cases hread : t.readStatesFrom place states with
  | error e => exact ⟨e, rfl⟩
  | ok resources =>
    obtain ⟨r, hr⟩ := exists_readStatesFrom_iff.mp ⟨resources, hread⟩ s hs
    obtain ⟨e, he⟩ := herror 0
    cases hr.symm.trans he

end ResourceType

namespace Client

variable {c : Client} {t : ResourceType} {args : ReadArgs} {v : Json}

theorem exists_fill (attributes : Dict String) (d : Dict State) (h : d.Ascending) :
    ∃ m : Dict State,
      attributes.foldl (fun s a => s.setDefault a.1 (.text a.2)) (State.map d) = .map m ∧
      m.Ascending ∧ ∀ key, Dict.find? key m =
        (Dict.find? key d).or ((Dict.find? key attributes).map .text) := by
  induction attributes generalizing d with
  | nil => exact ⟨d, rfl, h, fun key => by simp [Dict.find?]⟩
  | cons a rest ih =>
    obtain ⟨name, value⟩ := a
    obtain ⟨m, hm, hascending, hfind⟩ :=
      ih (Dict.insertIfAbsent name (.text value) d) (h.insertIfAbsent name _)
    refine ⟨m, hm, hascending, fun key => ?_⟩
    rw [hfind, Dict.find?_insertIfAbsent, Option.or_assoc, Dict.find?]
    by_cases hkey : name = key
    · simp [hkey]
    · simp [hkey]

/-- What a client makes of the state of an object. -/
theorem exists_identified (args : ReadArgs) {entries : Dict Json} (h : entries.Ascending) :
    ∃ m : Dict State, identified args (State.ofJson (.object entries)) = .map m ∧ m.Ascending ∧
      ∀ key, Dict.find? key m = if key = "id" then some (.text args.id) else
        ((Dict.find? key entries).map State.ofJson).or
          ((Dict.find? key args.attributes).map State.text) := by
  have hset : (State.ofJson (.object entries)).set "id" (.text args.id) =
      .map (Dict.insert "id" (.text args.id) (Dict.mapValues State.ofJson entries)) := by
    rw [State.ofJson, State.ofEntries_eq, State.set]
  obtain ⟨m, hm, hascending, hfind⟩ := exists_fill args.attributes
    (Dict.insert "id" (.text args.id) (Dict.mapValues State.ofJson entries))
    ((h.mapValues State.ofJson).insert "id" _)
  refine ⟨m, by rw [identified, hset, hm], hascending, fun key => ?_⟩
  rw [hfind]
  by_cases hkey : key = "id"
  · simp [hkey, Dict.find?_insert_self]
  · rw [if_neg hkey, Dict.find?_insert_of_ne (Ne.symm hkey), Dict.find?_mapValues]

theorem identified_of_not_map {s : State} (h : s.entries? = none) (args : ReadArgs) :
    identified args s = s := by
  rw [identified, State.set_eq_self h, State.foldl_setDefault_eq_self h]

theorem read_eq (htype : args.type = t.name)
    (hget : c.get (c.url t.definition.service (t.definition.readPathOf c.project args)) = .ok v) :
    c.read args = .ok (identified args (State.ofJson v)) := by
  simp only [read, htype, ResourceType.definitionOf_name, bind, Except.bind, hget]
  rfl

theorem entries?_ofJson (v : Json) : (State.ofJson v).entries? = none ↔ v.entries? = none := by
  cases v <;> simp [State.ofJson, State.entries?, Json.entries?]

end Client

end CloudInventory
