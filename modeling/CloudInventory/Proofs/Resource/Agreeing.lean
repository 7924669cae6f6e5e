import CloudInventory.Proofs.Resource.Reading
import CloudInventory.Proofs.Resource.Written
import Mathlib.Data.Fin.VecNotation
import Mathlib.Data.List.OfFn
import Mathlib.Logic.Equiv.Basic

/-! What the reading of states does not depend on: the entries that no record looks at, at any
depth, and the order of the states, which only orders the resources. -/

namespace CloudInventory

mutual

/-- Two values are the same but for entries that no record looks at. -/
def Shape.Agrees : Shape → Json → Json → Prop
  | .list item, .array vs, .array ws => vs.Forall₂ item.Agrees ws
  | .dict value, .object es, .object fs =>
    es.Forall₂ (fun e f => e.1 = f.1 ∧ value.Agrees e.2 f.2) fs
  | .record _ fields, .object es, .object fs => fields.Agree es fs
  | _, v, w => v = w

def Fields.Agree : Fields → List (String × Json) → List (String × Json) → Prop
  | .nil, _, _ => True
  | .cons key shape _ rest, es, fs =>
    Option.Rel shape.Agrees (Dict.find? key es) (Dict.find? key fs) ∧ rest.Agree es fs

end

theorem Option.rel_refl_of {α : Type} {R : α → α → Prop} (h : ∀ a, R a a) (o : Option α) :
    Option.Rel R o o := by
  cases o with
  | none => exact .none
  | some a => exact .some (h a)

mutual

theorem Shape.agrees_refl : (s : Shape) → ∀ v, s.Agrees v v
  | .text, v | .flag, v | .word32, v | .choice _, v => by cases v <;> rfl
  | .list item, v => by
    cases v with
    | array vs => exact List.forall₂_same.mpr fun v _ => item.agrees_refl v
    | null | bool | number | string | object => rfl
  | .dict value, v => by
    cases v with
    | object es => exact List.forall₂_same.mpr fun e _ => ⟨rfl, value.agrees_refl e.2⟩
    | null | bool | number | string | array => rfl
  | .record _ fields, v => by
    cases v with
    | object es => exact fields.agree_refl es
    | null | bool | number | string | array => rfl

theorem Fields.agree_refl : (fs : Fields) → ∀ es, fs.Agree es es
  | .nil, _ => trivial
  | .cons _ shape _ rest, es => ⟨Option.rel_refl_of shape.agrees_refl _, rest.agree_refl es⟩

end

section Reading

variable {α : Type} {read : Json → Except Misfit α}

theorem readEach_congr {R : Json → Json → Prop} (hR : ∀ v w, R v w → read v = read w)
    {vs ws : List Json} (h : vs.Forall₂ R ws) : readEach read vs = readEach read ws := by
  induction h with
  | nil => rfl
  | cons hvw _ ih => rw [readEach, readEach, hR _ _ hvw, ih]

theorem readEntry_congr {R : Json → Json → Prop} (hR : ∀ v w, R v w → read v = read w)
    {es fs : List (String × Json)} (h : es.Forall₂ (fun e f => e.1 = f.1 ∧ R e.2 f.2) fs) :
    readEntry read es = readEntry read fs := by
  induction h with
  | nil => rfl
  | cons hef _ ih => rw [readEntry, readEntry, hef.1, hR _ _ hef.2, ih]

theorem readWith_congr {p : Presence} {v w : Json} (hnull : v = .null ↔ w = .null)
    (h : read v = read w) : p.readWith read v = p.readWith read w := by
  by_cases hv : v = .null
  · rw [hv, hnull.mp hv]
  · have hw := mt hnull.mpr hv
    have hgiven : ∀ u, u ≠ .null → p.readWith read u = (read u).map p.given := by
      intro u hu
      unfold Presence.readWith
      split
      · contradiction
      · rfl
    rw [hgiven v hv, hgiven w hw, h]

end Reading

theorem Shape.Agrees.null_iff {s : Shape} {v w : Json} (h : s.Agrees v w) :
    v = .null ↔ w = .null := by
  cases s <;> cases v <;> cases w <;> simp_all [Shape.Agrees]

mutual

theorem Shape.read_congr : (s : Shape) → ∀ {v w}, s.Agrees v w → s.read v = s.read w
  | .text, v, w, h | .flag, v, w, h | .word32, v, w, h | .choice _, v, w, h => by
    cases v <;> cases w <;> simp_all [Shape.Agrees]
  | .list item, v, w, h => by
    -- where the two are not both lists, they are the same value
    by_cases hlists : ∃ vs ws, v = .array vs ∧ w = .array ws
    · obtain ⟨vs, ws, rfl, rfl⟩ := hlists
      rw [Shape.read, Shape.read, readEach_congr (R := item.Agrees) (fun _ _ => item.read_congr) h]
    · cases v <;> cases w <;> simp_all [Shape.Agrees]
  | .dict value, v, w, h => by
    by_cases hmaps : ∃ es fs, v = .object es ∧ w = .object fs
    · obtain ⟨es, fs, rfl, rfl⟩ := hmaps
      rw [Shape.read, Shape.read,
        readEntry_congr (R := value.Agrees) (fun _ _ => value.read_congr) h]
    · cases v <;> cases w <;> simp_all [Shape.Agrees]
  | .record _ fields, v, w, h => by
    by_cases hmaps : ∃ es fs, v = .object es ∧ w = .object fs
    · obtain ⟨es, fs, rfl, rfl⟩ := hmaps
      rw [Shape.read, Shape.read, fields.readEntries_congr h]
    · cases v <;> cases w <;> simp_all [Shape.Agrees]

theorem Fields.readEntries_congr :
    (fs : Fields) → ∀ {es es'}, fs.Agree es es' → fs.readEntries es = fs.readEntries es'
  | .nil, _, _, _ => rfl
  | .cons key shape presence rest, es, es', h => by
    obtain ⟨hhere, hrest⟩ := h
    rw [Fields.readEntries, Fields.readEntries, rest.readEntries_congr hrest]
    generalize Dict.find? key es = v?, Dict.find? key es' = w? at hhere ⊢
    cases hhere with
    | none => rfl
    | some hvw => simp only [readWith_congr hvw.null_iff (shape.read_congr hvw)]

end

theorem Fields.agree_of_find? {fs : Fields} {es es' : List (String × Json)}
    (h : ∀ key ∈ fs.keys, Dict.find? key es = Dict.find? key es') : fs.Agree es es' := by
  match fs with
  | .nil => trivial
  | .cons key shape _ rest =>
    obtain ⟨hhere, hrest⟩ := List.forall_mem_cons.mp h
    refine ⟨?_, rest.agree_of_find? hrest⟩
    rw [hhere]
    exact Option.rel_refl_of shape.agrees_refl _

namespace ResourceType

variable {t : ResourceType} {s s' : State}

def Agrees (t : ResourceType) (s s' : State) : Prop :=
  ∃ es es' : Dict State, s = .map es ∧ s' = .map es' ∧
    t.fields.Agree (State.toEntries es) (State.toEntries es')

theorem agrees_insert {key : String} (h : key ∉ t.fields.keys) (value : State)
    (entries : Dict State) : t.Agrees (.map entries) (.map (Dict.insert key value entries)) := by
  refine ⟨entries, _, rfl, rfl, Fields.agree_of_find? fun other hother => ?_⟩
  have hne : key ≠ other := fun hsame => h (hsame ▸ hother)
  rw [State.toEntries_eq, State.toEntries_eq, Dict.find?_mapValues, Dict.find?_mapValues,
    Dict.find?_insert_of_ne hne]

theorem readState_congr (h : t.Agrees s s') (place : Nat) :
    t.readState place s = t.readState place s' := by
  obtain ⟨es, es', rfl, rfl, hagree⟩ := h
  simp only [readState, readMap, Fields.readEntries_congr t.fields hagree]

theorem readStatesFrom_congr {states states' : List State} (h : states.Forall₂ t.Agrees states')
    (place : Nat) : t.readStatesFrom place states = t.readStatesFrom place states' := by
  induction h generalizing place with
  | nil => rfl
  | cons hs _ ih => rw [readStatesFrom, readStatesFrom, readState_congr hs, ih]

theorem readStates_ofFn_iff {n : Nat} {states : Fin n → State} {resources : List Resource} :
    t.readStates (.ofFn states) = .ok resources ↔
      ∃ rs : Fin n → Resource, resources = .ofFn rs ∧
        ∀ i, t.readState 0 (states i) = .ok (rs i) := by
  rw [readStates, readStatesFrom_eq_ok_iff, List.forall₂_iff_get]
  constructor
  · rintro ⟨hlength, hreads⟩
    obtain rfl : n = resources.length := by simpa using hlength
    refine ⟨resources.get, (List.ofFn_get resources).symm, fun i => ?_⟩
    simpa using hreads i (by simp) i.isLt
  · rintro ⟨rs, rfl, hreads⟩
    exact ⟨by simp, fun i hi hi' => by simpa using hreads ⟨i, by simpa using hi⟩⟩

/-- The reading of states looks at the fields of their type and at nothing else, errors included: an
entry under any other key is as good as none. States in another order are read if and only if they
are in this, as the same resources in that order. -/
theorem reading_indifferent (t : ResourceType) :
    (∀ states states', states.Forall₂ t.Agrees states' →
        t.readStates states = t.readStates states') ∧
      (∀ key ∉ t.fields.keys, ∀ value entries,
        t.Agrees (.map entries) (.map (Dict.insert key value entries))) ∧
      ∀ (n : Nat) (σ : Equiv.Perm (Fin n)) (states : Fin n → State),
        ((∃ resources, t.readStates (.ofFn (states ∘ σ)) = .ok resources) ↔
          ∃ resources, t.readStates (.ofFn states) = .ok resources) ∧
        ∀ resources, t.readStates (.ofFn states) = .ok resources →
          ∃ rs : Fin n → Resource, resources = .ofFn rs ∧
            t.readStates (.ofFn (states ∘ σ)) = .ok (.ofFn (rs ∘ σ)) := by
  refine ⟨fun states states' h => readStatesFrom_congr h 0, fun key h => agrees_insert h,
    fun n σ states => ?_⟩
  have hreorder : ∀ (τ : Equiv.Perm (Fin n)) (states : Fin n → State) (resources : List Resource),
      t.readStates (.ofFn states) = .ok resources → ∃ rs : Fin n → Resource,
        resources = .ofFn rs ∧ t.readStates (.ofFn (states ∘ τ)) = .ok (.ofFn (rs ∘ τ)) := by
    intro τ states resources hread
    obtain ⟨rs, hrs, hreads⟩ := readStates_ofFn_iff.mp hread
    exact ⟨rs, hrs, readStates_ofFn_iff.mpr ⟨rs ∘ τ, rfl, fun i => hreads (τ i)⟩⟩
  -- the way back is the same, along the inverse order
  refine ⟨⟨?_, ?_⟩, hreorder σ states⟩
  · rintro ⟨resources, hread⟩
    obtain ⟨rs, _, hback⟩ := hreorder σ.symm _ _ hread
    rw [Function.comp_assoc, Equiv.self_comp_symm, Function.comp_id] at hback
    exact ⟨_, hback⟩
  · rintro ⟨resources, hread⟩
    obtain ⟨rs, _, hthere⟩ := hreorder σ _ _ hread
    exact ⟨_, hthere⟩

/-- An instance with one interface, and notes on both that no field takes in. -/
def noted (name : String) (notes : State) : State :=
  .map [("id", .text name), ("name", .text name),
    ("networkInterfaces", .list [.map [("kind", notes), ("network", .text "default")]]),
    ("notes", notes)]

def halfNamed (notes : State) : List State :=
  [noted "web" notes, .map [("id", .text "db"), ("notes", notes)]]

def webAndDb : Fin 2 → State := ![noted "web" .null, noted "db" (.bool true)]

theorem noted_indifferent :
    (halfNamed .null).Forall₂ ResourceType.computeInstance.Agrees (halfNamed (.list [.null])) ∧
      ResourceType.computeInstance.readStates (halfNamed (.list [.null])) =
        .error (.deserialize "google_compute_instance" "value #1: missing field \x60name\x60") ∧
      ResourceType.computeInstance.Agrees (.map [("id", .text "db")])
        (.map [("hostname", .text "db"), ("id", .text "db")]) ∧
      ∃ resources, ResourceType.computeInstance.readStates (.ofFn webAndDb) = .ok resources ∧
        ∃ rs : Fin 2 → Resource, resources = .ofFn rs ∧
          ResourceType.computeInstance.readStates (.ofFn (webAndDb ∘ Equiv.swap 0 1)) =
            .ok (.ofFn (rs ∘ Equiv.swap 0 1)) := by
  have hagree : (halfNamed .null).Forall₂ ResourceType.computeInstance.Agrees
      (halfNamed (.list [.null])) := by
    refine .cons ⟨_, _, rfl, rfl, ?_⟩ (.cons ⟨_, _, rfl, rfl, ?_⟩ .nil)
    · simp [Fields.Agree, Shape.Agrees, State.toEntries, State.toJson, State.toItems, Dict.find?]
    · simp [Fields.Agree, Shape.Agrees, State.toEntries, State.toJson, State.toItems, Dict.find?]
  have hread : ∃ resources,
      ResourceType.computeInstance.readStates (.ofFn webAndDb) = .ok resources := ⟨_, rfl⟩
  obtain ⟨hcongr, hinsert, hpermuted⟩ := reading_indifferent .computeInstance
  obtain ⟨resources, hread⟩ := hread
  have hhost := hinsert "hostname" (by decide) (.text "db") [("id", .text "db")]
  refine ⟨hagree, (hcongr _ _ hagree).symm.trans rfl, hhost, resources, hread, ?_⟩
  exact (hpermuted 2 (Equiv.swap 0 1) webAndDb).2 resources hread

end ResourceType

end CloudInventory
