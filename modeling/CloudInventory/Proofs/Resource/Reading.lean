import CloudInventory.Proofs.Listing.Identity

/-! The reading of lists of states. A state is read alike at every place of a list; the place only
stands in what is said of a state that cannot be read. -/

namespace CloudInventory

theorem exists_forall₂_iff {α β : Type} {R : α → β → Prop} {l : List α} :
    (∃ m, l.Forall₂ R m) ↔ ∀ a ∈ l, ∃ b, R a b := by
  induction l with
  | nil => simp
  | cons a l ih =>
    rw [List.forall_mem_cons, ← ih]
    constructor
    · rintro ⟨m, h⟩
      obtain ⟨b, rest, hab, hrest, _⟩ := List.forall₂_cons_left_iff.mp h
      exact ⟨⟨b, hab⟩, rest, hrest⟩
    · rintro ⟨⟨b, hab⟩, m, hrest⟩
      exact ⟨b :: m, .cons hab hrest⟩

namespace ResourceType

variable {t : ResourceType} {resource : Resource} {place : Nat} {s : State}

theorem readState_eq_ok_iff : t.readState place s = .ok resource ↔
    ∃ entries, s = .map entries ∧ t.readMap (State.toEntries entries) = .ok resource := by
  refine ⟨exists_readMap_of_readState, ?_⟩
  rintro ⟨entries, rfl, hmap⟩
  simp only [readState, hmap]

theorem readState_at (h : t.readState place s = .ok resource) (place' : Nat) :
    t.readState place' s = .ok resource :=
  readState_eq_ok_iff.mpr (readState_eq_ok_iff.mp h)

theorem readStatesFrom_eq_ok_iff {states : List State} {resources : List Resource} :
    t.readStatesFrom place states = .ok resources ↔
      states.Forall₂ (fun s r => t.readState 0 s = .ok r) resources := by
  induction states generalizing place resources with
  | nil =>
    rw [List.forall₂_nil_left_iff, readStatesFrom, Except.ok.injEq]
    exact eq_comm
  | cons s states ih =>
    rw [List.forall₂_cons_left_iff]
    constructor
    · intro h
      cases hs : t.readState place s with
      | error e => simp [readStatesFrom, hs] at h
      | ok r =>
        cases hrest : t.readStatesFrom (place + 1) states with
        | error e => simp [readStatesFrom, hs, hrest, Except.map] at h
        | ok rs =>
          obtain rfl : r :: rs = resources := by
            simpa [readStatesFrom, hs, hrest, Except.map] using h
          exact ⟨r, rs, readState_at hs 0, ih.mp hrest, rfl⟩
    · rintro ⟨r, rs, hs, hrest, rfl⟩
      simp [readStatesFrom, readState_at hs place, ih.mpr hrest, Except.map]

theorem exists_readStatesFrom_iff {states : List State} :
    (∃ resources, t.readStatesFrom place states = .ok resources) ↔
      ∀ s ∈ states, ∃ r, t.readState 0 s = .ok r := by
  simp only [readStatesFrom_eq_ok_iff, exists_forall₂_iff]

/-- What is said of a state that cannot be read. -/
inductive Blames (t : ResourceType) (place : Nat) : State → Error → Prop
  | kind {s : State} : s.entries? = none →
      Blames t place s (.deserialize t.name s!"value #{place} is a {s.kind}, expected a map")
  | misfit {entries : Dict State} {m : Misfit} :
      t.readMap (State.toEntries entries) = .error m →
      Blames t place (.map entries) (.deserialize t.name s!"value #{place}: {m.message}")

theorem readState_eq_error {e : Error} (h : t.readState place s = .error e) :
    Blames t place s e := by
  cases s with
  | map entries =>
    cases hmap : t.readMap (State.toEntries entries) with
    | ok r => simp [readState, hmap] at h
    | error m =>
      obtain rfl : Error.deserialize t.name s!"value #{place}: {m.message}" = e := by
        simpa [readState, hmap] using h
      exact .misfit hmap
  | null | bool | number | text | list =>
    obtain rfl := Except.error.inj h
    exact .kind rfl

/-- The first state that cannot be read is the one that is told of. -/
theorem readStatesFrom_eq_error {before after : List State} {e : Error}
    (hbefore : ∀ b ∈ before, ∃ r, t.readState 0 b = .ok r)
    (hs : t.readState (place + before.length) s = .error e) :
    t.readStatesFrom place (before ++ s :: after) = .error e := by
  induction before generalizing place with
  | nil => simp only [List.nil_append, readStatesFrom, show t.readState place s = .error e from hs]
  | cons b before ih =>
    obtain ⟨r, hr⟩ := hbefore b List.mem_cons_self
    have hrest : t.readStatesFrom (place + 1) (before ++ s :: after) = .error e := by
      refine ih (fun b' hb' => hbefore b' (List.mem_cons_of_mem _ hb')) ?_
      rwa [Nat.add_assoc, Nat.add_comm 1]
    simp only [List.cons_append, readStatesFrom, readState_at hr place, hrest, Except.map]

end ResourceType

end CloudInventory
