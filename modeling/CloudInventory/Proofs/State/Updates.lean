import CloudInventory.Proofs.Dict
import CloudInventory.Proofs.State

/-! States mirror JSON values, and take updates as maps do: under the key of an update stands the
new value, or the old one where that is to be kept, and all else is as it was. -/

namespace CloudInventory.State

variable {s : State} {key other : String} {value value' : State}

theorem get?_ofJson (v : Json) (key : String) : (ofJson v).get? key = (v.field? key).map ofJson := by
  cases v with
  | object entries => rw [ofJson, get?, Json.field?, ofEntries_eq, Dict.find?_mapValues]
  | _ => rfl

/-- Both are maps, with the same entries under all keys but one. -/
structure AgreeBut (key : String) (s s' : State) : Prop where
  found : ∀ other, other ≠ key → s'.get? other = s.get? other
  rest : ∃ entries entries' : Dict State, s = .map entries ∧ s' = .map entries' ∧
    entries'.filter (·.1 ≠ key) = entries.filter (·.1 ≠ key) ∧
    (entries.Ascending → entries'.Ascending)

theorem AgreeBut.refl (key : String) (entries : Dict State) :
    AgreeBut key (.map entries) (.map entries) :=
  ⟨fun _ _ => rfl, entries, entries, rfl, rfl, rfl, id⟩

theorem agreeBut_set (key : String) (value : State) (entries : Dict State) :
    AgreeBut key (.map entries) ((State.map entries).set key value) where
  found _ hother := Dict.find?_insert_of_ne hother.symm value entries
  rest := ⟨entries, Dict.insert key value entries, rfl, rfl, Dict.filter_insert key value entries,
    fun h => h.insert key value⟩

theorem setDefault_of_none (h : s.get? key = none) (value : State) :
    s.setDefault key value = s.set key value := by
  cases s with
  | map entries => rw [setDefault, set, Dict.insertIfAbsent_of_none h]
  | _ => rfl

theorem setDefault_of_some (h : s.get? key = some value) (value' : State) :
    s.setDefault key value' = s := by
  cases s with
  | map entries => rw [setDefault, Dict.insertIfAbsent_of_some h]
  | _ => rfl

theorem agreeBut_setDefault (key : String) (value : State) (entries : Dict State) :
    AgreeBut key (.map entries) ((State.map entries).setDefault key value) := by
  cases hfind : (State.map entries).get? key with
  | none =>
    rw [setDefault_of_none hfind]
    exact agreeBut_set key value entries
  | some old =>
    rw [setDefault_of_some hfind]
    exact .refl key entries

theorem get?_set_of_ne (h : key ≠ other) (s value : State) :
    (s.set key value).get? other = s.get? other := by
  cases s with
  | map entries => exact Dict.find?_insert_of_ne h value entries
  | _ => rfl

theorem set_comm (h : key ≠ other) (s value value' : State) :
    (s.set key value).set other value' = (s.set other value').set key value := by
  cases s with
  | map entries => exact congrArg State.map (Dict.insert_comm h.symm value' value entries)
  | _ => rfl

theorem set_setDefault_comm (h : key ≠ other) (s value value' : State) :
    (s.set key value).setDefault other value' = (s.setDefault other value').set key value := by
  cases hfind : s.get? other with
  | none =>
    rw [setDefault_of_none hfind, setDefault_of_none (by rw [get?_set_of_ne h, hfind]),
      set_comm h]
  | some old =>
    rw [setDefault_of_some hfind, setDefault_of_some (by rw [get?_set_of_ne h, hfind])]

theorem get?_setDefault_of_ne (h : key ≠ other) (s value : State) :
    (s.setDefault key value).get? other = s.get? other := by
  cases hfind : s.get? key with
  | none => rw [setDefault_of_none hfind, get?_set_of_ne h]
  | some old => rw [setDefault_of_some hfind]

theorem setDefault_comm (h : key ≠ other) (s value value' : State) :
    (s.setDefault key value).setDefault other value' =
      (s.setDefault other value').setDefault key value := by
  have hsame := get?_setDefault_of_ne h.symm s value'
  cases hfind : s.get? key with
  | none =>
    rw [setDefault_of_none hfind, setDefault_of_none (hsame.trans hfind),
      set_setDefault_comm h]
  | some old => rw [setDefault_of_some hfind, setDefault_of_some (hsame.trans hfind)]

/-- Converting a JSON value and back gives it again, and so does converting a state; what stands
under a key is converted on its own. On a map, an update changes what is under its key alone, and
one by default does so only where nothing is; other states stay as they are. Updates under
different keys may change places. -/
theorem mirrors_and_updates :
    (∀ v : Json, (ofJson v).toJson = v) ∧ (∀ s : State, ofJson s.toJson = s) ∧
      (∀ v key, (ofJson v).get? key = (Json.field? key v).map ofJson) ∧
      (∀ (entries : Dict State) key value,
        let s := State.map entries
        (s.set key value).get? key = some value ∧ AgreeBut key s (s.set key value) ∧
          (s.get? key = none → s.setDefault key value = s.set key value) ∧
          (∀ old, s.get? key = some old → s.setDefault key value = s) ∧
          AgreeBut key s (s.setDefault key value)) ∧
      (∀ (s : State) key value, s.entries? = none →
        s.set key value = s ∧ s.setDefault key value = s) ∧
      (∀ (s : State) key other value value', key ≠ other →
        (s.set key value).set other value' = (s.set other value').set key value ∧
        (s.set key value).setDefault other value' = (s.setDefault other value').set key value ∧
        (s.setDefault key value).setDefault other value' =
          (s.setDefault other value').setDefault key value) := by
  refine ⟨toJson_ofJson, ofJson_toJson, get?_ofJson, fun entries key value => ?_,
    fun s key value hnone => ?_, fun s key other value value' h => ?_⟩
  · exact ⟨Dict.find?_insert_self key value entries, agreeBut_set key value entries,
      fun h => setDefault_of_none h value, fun old h => setDefault_of_some h value,
      agreeBut_setDefault key value entries⟩
  · cases s with
    | map entries => cases hnone
    | _ => exact ⟨rfl, rfl⟩
  · exact ⟨set_comm h s value value', set_setDefault_comm h s value value',
      setDefault_comm h s value value'⟩

def zonedMachine : Dict State := [("name", .text "vm-1"), ("zone", .text "zones/us-central1-a")]

/-- The zone is there already and stays, and the identifier is new. -/
theorem zonedMachine_updated :
    let identified := (State.map zonedMachine).set "id" (.text "vm-1")
    identified.get? "id" = some (.text "vm-1") ∧ identified.get? "name" = some (.text "vm-1") ∧
      identified.setDefault "zone" (.text "us-central1-a") = identified ∧
      (State.map zonedMachine).setDefault "zone" (.text "us-central1-a") = .map zonedMachine ∧
      (State.bool true).set "id" (.text "vm-1") = .bool true := by
  intro identified
  obtain ⟨_, _, _, hmap, hother, hcomm⟩ := mirrors_and_updates
  obtain ⟨hget, hagree, _⟩ := hmap zonedMachine "id" (.text "vm-1")
  obtain ⟨_, _, _, hkept, _⟩ := hmap zonedMachine "zone" (.text "us-central1-a")
  refine ⟨hget, hagree.found "name" (by decide), ?_, hkept _ rfl, (hother _ _ _ rfl).1⟩
  rw [(hcomm _ "id" "zone" _ _ (by decide)).2.1, hkept _ rfl]

end CloudInventory.State
