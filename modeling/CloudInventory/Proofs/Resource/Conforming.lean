import CloudInventory.Proofs.Resource.Reading

/-! Which states are read. A state conforms to its type if it is a map and its fields are what the
type says, down to the records within: each of them a map too, a field left out only where it may
be. The reading takes more than that: below the outermost map, a list of values in the order of the
fields passes for a record. -/

namespace CloudInventory

/-- What may stand at a field: nothing, where a record can do without the field; null, where that
is no value of it; else what fits. -/
def Presence.Admits (p : Presence) (fits : Json → Prop) : Option Json → Prop
  | none => p ≠ .required
  | some v => p.nullable = true ∧ v = .null ∨ fits v

/-- Whether a list of the values of a record may end before the field. -/
def Presence.MayEnd (p : Presence) : Prop := p = .defaulted ∨ p = .omissible

mutual

/-- A value is of a shape. With `lists`, a list may stand for a record. -/
def Shape.Fits (lists : Bool) : Shape → Json → Prop
  | .text, .string _ => True
  | .flag, .bool _ => True
  | .word32, .number (.int n) => ∃ w : UInt32, n = w.toNat
  | .choice options, .string word => word ∈ options
  | .choice options, .object entries => ∃ word ∈ options, entries = [(word, .null)]
  | .list item, .array vs => ∀ v ∈ vs, item.Fits lists v
  | .dict value, .object entries => ∀ e ∈ entries, value.Fits lists e.2
  | .record _ fields, .object entries => fields.Fit lists entries
  | .record _ fields, .array vs => lists = true ∧ fields.FitInOrder lists vs
  | _, _ => False

def Fields.Fit (lists : Bool) : Fields → List (String × Json) → Prop
  | .nil, _ => True
  | .cons key shape presence rest, entries =>
    presence.Admits (shape.Fits lists) (Dict.find? key entries) ∧ rest.Fit lists entries

def Fields.FitInOrder (lists : Bool) : Fields → List Json → Prop
  | .nil, vs => vs = []
  | .cons _ _ presence rest, [] => presence.MayEnd ∧ rest.FitInOrder lists []
  | .cons _ shape presence rest, v :: vs =>
    presence.Admits (shape.Fits lists) (some v) ∧ rest.FitInOrder lists vs

end

section Reading

variable {α β : Type}

@[simp] theorem isOk_ok {ε : Type} (a : α) : (Except.ok a : Except ε α).isOk = true := rfl

@[simp] theorem isOk_error {ε : Type} (e : ε) : (Except.error e : Except ε α).isOk = false := rfl

theorem isOk_map {ε : Type} (f : α → β) (x : Except ε α) : (x.map f).isOk = x.isOk := by
  cases x <;> rfl

theorem isOk_bothFields (a : Except FieldMisfit α) (b : Except FieldMisfit β) :
    (bothFields a b).isOk = (a.isOk && b.isOk) := by
  cases a <;> cases b <;> rfl

variable {read : Json → Except Misfit α}

theorem isOk_readEach (vs : List Json) :
    (readEach read vs).isOk = vs.all fun v => (read v).isOk := by
  induction vs with
  | nil => rfl
  | cons v vs ih =>
    rw [List.all_cons, ← ih, readEach]
    cases read v with
    | error => rfl
    | ok a => exact isOk_map _ _

theorem isOk_readEntry (entries : List (String × Json)) :
    (readEntry read entries).isOk = entries.all fun e => (read e.2).isOk := by
  induction entries with
  | nil => rfl
  | cons e rest ih =>
    rw [List.all_cons, ← ih, readEntry]
    cases read e.2 with
    | error => rfl
    | ok a => exact isOk_map _ _

theorem isOk_readWith (read : Json → Except Misfit α) (p : Presence) (v : Json) :
    (p.readWith read v).isOk = true ↔ p.nullable = true ∧ v = .null ∨ (read v).isOk = true := by
  cases p <;> cases v <;> simp [Presence.readWith, Presence.null?, Presence.nullable, isOk_map]

end Reading

theorem isOk_readWord32 (v : Json) : (readWord32 v).isOk = true ↔ Shape.Fits true .word32 v := by
  cases v with
  | number n =>
    cases n with
    | float => simp [readWord32, Shape.Fits]
    | int n =>
      have hrange : (0 ≤ n ∧ n.toNat < 1 <<< 32) ↔ ∃ w : UInt32, n = w.toNat := by
        constructor
        · rintro ⟨hpos, hlt⟩
          refine ⟨UInt32.ofNatLT n.toNat hlt, ?_⟩
          rw [UInt32.toNat_ofNatLT, Int.toNat_of_nonneg hpos]
        · rintro ⟨w, rfl⟩
          exact ⟨Int.natCast_nonneg _, w.toNat_lt⟩
      rw [Shape.Fits, ← hrange, readWord32]
      split <;> simp_all
  | null | bool | string | array | object => simp [readWord32, Shape.Fits]

theorem isOk_readWord (options : List String) (word : String) :
    (readWord options word).isOk = options.contains word := by
  rw [readWord, ← List.isSome_finIdxOf?]
  cases options.finIdxOf? word <;> rfl

theorem isOk_readChoice (options : List String) (v : Json) :
    (readChoice options v).isOk = true ↔ (Shape.choice options).Fits true v := by
  cases v with
  | string word => simp [readChoice, Shape.Fits, isOk_readWord]
  | object entries =>
    match entries with
    | [] | _ :: _ :: _ => simp [readChoice, Shape.Fits]
    | [(word, v)] =>
      have hword := isOk_readWord options word
      cases hread : readWord options word <;> cases v <;>
        simp_all [readChoice, Shape.Fits]
  | null | bool | number | array => simp [readChoice, Shape.Fits]

mutual

theorem Shape.isOk_read : (s : Shape) → ∀ v, (s.read v).isOk = true ↔ s.Fits true v
  | .text, v => by cases v <;> simp [Shape.read, Shape.Fits]
  | .flag, v => by cases v <;> simp [Shape.read, Shape.Fits]
  | .word32, v => by rw [Shape.read, isOk_readWord32]
  | .choice options, v => by rw [Shape.read, isOk_readChoice]
  | .list item, v => by
    cases v with
    | array vs => simp [Shape.read, Shape.Fits, isOk_readEach, item.isOk_read]
    | null | bool | number | string | object =>
      simp [Shape.read, Shape.Fits]
  | .dict value, v => by
    cases v with
    | object entries => simp [Shape.read, Shape.Fits, isOk_readEntry, value.isOk_read]
    | null | bool | number | string | array =>
      simp [Shape.read, Shape.Fits]
  | .record name fields, v => by
    cases v with
    | object entries =>
      rw [Shape.Fits, ← fields.isOk_readEntries entries, Shape.read]
      cases fields.readEntries entries <;> simp
    | array vs => simp [Shape.read, Shape.Fits, fields.isOk_readItems]
    | null | bool | number | string => simp [Shape.read, Shape.Fits]

theorem Fields.isOk_readEntries :
    (fs : Fields) → ∀ entries, (fs.readEntries entries).isOk = true ↔ fs.Fit true entries
  | .nil, entries => by simp [Fields.readEntries, Fields.Fit]
  | .cons key shape presence rest, entries => by
    rw [Fields.readEntries, isOk_bothFields, Bool.and_eq_true, rest.isOk_readEntries, Fields.Fit]
    refine and_congr_left' ?_
    cases Dict.find? key entries with
    | none => cases presence <;> simp [Presence.absent?, Presence.Admits]
    | some v =>
      have hhere := isOk_readWith shape.read presence v
      rw [shape.isOk_read] at hhere
      rw [Presence.Admits, ← hhere]
      cases hread : presence.readWith shape.read v <;> simp [hread]

theorem Fields.isOk_readItems :
    (fs : Fields) → ∀ name count length i vs,
      (fs.readItems name count length i vs).isOk = true ↔ fs.FitInOrder true vs
  | .nil, name, count, length, i, vs => by
    cases vs <;> simp [Fields.readItems, Fields.FitInOrder]
  | .cons key shape presence rest, name, count, length, i, [] => by
    rw [Fields.readItems, Fields.FitInOrder]
    cases presence <;>
      simp [Presence.pastEnd?, Presence.MayEnd, isOk_map, rest.isOk_readItems]
  | .cons key shape presence rest, name, count, length, i, v :: vs => by
    have hhere := isOk_readWith shape.read presence v
    rw [shape.isOk_read] at hhere
    rw [Fields.readItems, Fields.FitInOrder, Presence.Admits, ← hhere]
    cases presence.readWith shape.read v <;> simp [isOk_map, rest.isOk_readItems]

end

mutual

/-- No list stands for a record. -/
def Shape.Unlisted : Shape → Json → Prop
  | .list item, .array vs => ∀ v ∈ vs, item.Unlisted v
  | .dict value, .object entries => ∀ e ∈ entries, value.Unlisted e.2
  | .record _ fields, .object entries => fields.Unlisted entries
  | .record .., .array _ => False
  | _, _ => True

def Fields.Unlisted : Fields → List (String × Json) → Prop
  | .nil, _ => True
  | .cons key shape _ rest, entries =>
    (∀ v, Dict.find? key entries = some v → shape.Unlisted v) ∧ rest.Unlisted entries

end

theorem Shape.unlisted_null (s : Shape) : s.Unlisted .null := by
  cases s <;> trivial

mutual

theorem Shape.fits_iff : (s : Shape) → ∀ v, s.Fits false v ↔ s.Fits true v ∧ s.Unlisted v
  | .text, v | .flag, v | .choice _, v => by cases v <;> simp [Shape.Fits, Shape.Unlisted]
  | .word32, v => by
    cases v with
    | number n => cases n <;> simp [Shape.Fits, Shape.Unlisted]
    | null | bool | string | array | object => simp [Shape.Fits, Shape.Unlisted]
  | .list item, v => by
    cases v <;> simp [Shape.Fits, Shape.Unlisted, item.fits_iff, forall_and]
  | .dict value, v => by
    cases v <;> simp [Shape.Fits, Shape.Unlisted, value.fits_iff, forall_and]
  | .record _ fields, v => by
    cases v <;> simp [Shape.Fits, Shape.Unlisted, fields.fit_iff]

theorem Fields.fit_iff :
    (fs : Fields) → ∀ entries, fs.Fit false entries ↔ fs.Fit true entries ∧ fs.Unlisted entries
  | .nil, entries => by simp [Fields.Fit, Fields.Unlisted]
  | .cons key shape presence rest, entries => by
    have hhere : presence.Admits (shape.Fits false) (Dict.find? key entries) ↔
        presence.Admits (shape.Fits true) (Dict.find? key entries) ∧
          ∀ v, Dict.find? key entries = some v → shape.Unlisted v := by
      cases Dict.find? key entries with
      | none => simp [Presence.Admits]
      | some v =>
        have hnull : v = .null → shape.Unlisted v := fun h => h ▸ shape.unlisted_null
        simp only [Presence.Admits, shape.fits_iff, Option.some.injEq, forall_eq']
        tauto
    rw [Fields.Fit, Fields.Fit, Fields.Unlisted, rest.fit_iff, hhere, and_and_and_comm]

end

namespace ResourceType

variable {t : ResourceType} {s : State}

/-- A state is what its type says: a map, and a map at every record within. -/
def Conforms (t : ResourceType) (s : State) : Prop :=
  ∃ entries, s = .map entries ∧ t.fields.Fit false (State.toEntries entries)

def Accepts (t : ResourceType) (s : State) : Prop :=
  ∃ entries, s = .map entries ∧ t.fields.Fit true (State.toEntries entries)

def Unlisted (t : ResourceType) (s : State) : Prop :=
  ∀ entries, s = .map entries → t.fields.Unlisted (State.toEntries entries)

theorem conforms_iff : t.Conforms s ↔ t.Accepts s ∧ t.Unlisted s := by
  constructor
  · rintro ⟨entries, rfl, h⟩
    obtain ⟨hfit, hunlisted⟩ := (t.fields.fit_iff _).mp h
    refine ⟨⟨entries, rfl, hfit⟩, fun entries' hsame => ?_⟩
    obtain rfl := State.map.inj hsame
    exact hunlisted
  · rintro ⟨⟨entries, rfl, hfit⟩, hunlisted⟩
    exact ⟨entries, rfl, (t.fields.fit_iff _).mpr ⟨hfit, hunlisted entries rfl⟩⟩

theorem exists_readState_iff (place : Nat) :
    (∃ r, t.readState place s = .ok r) ↔ t.Accepts s := by
  have hmap : ∀ entries, (∃ r, t.readMap entries = .ok r) ↔ t.fields.Fit true entries := by
    intro entries
    rw [← t.fields.isOk_readEntries, readMap]
    cases t.fields.readEntries entries <;> simp
  simp only [readState_eq_ok_iff, Accepts, ← hmap]
  grind

/-- A list of states is read whole where all of them pass; else the first that does not is told of,
with its type and its place. -/
structure Judges (t : ResourceType) (Passes : State → Prop) (states : List State) : Prop where
  read : (∃ resources, t.readStates states = .ok resources) ↔ ∀ s ∈ states, Passes s
  refused : (∃ s ∈ states, ¬Passes s) → ∃ before s after e, states = before ++ s :: after ∧
    (∀ b ∈ before, Passes b) ∧ ¬Passes s ∧ t.readStates states = .error e ∧
      t.Blames before.length s e

theorem judges_accepts (t : ResourceType) (states : List State) : t.Judges t.Accepts states where
  read := by
    simp only [readStates, exists_readStatesFrom_iff, exists_readState_iff]
  refused hbad := by
    classical
    have hsome : (states.find? fun s => !decide (t.Accepts s)).isSome = true := by
      simpa using hbad
    obtain ⟨s, hs⟩ := Option.isSome_iff_exists.mp hsome
    obtain ⟨hrefused, before, after, rfl, hbefore⟩ := List.find?_eq_some_iff_append.mp hs
    simp only [Bool.not_eq_true', decide_eq_false_iff_not] at hrefused
    have hpass : ∀ b ∈ before, t.Accepts b := by simpa using hbefore
    cases hread : t.readState before.length s with
    | ok r => exact absurd ((exists_readState_iff _).mp ⟨r, hread⟩) hrefused
    | error e =>
      refine ⟨before, s, after, e, rfl, hpass, hrefused, ?_, readState_eq_error hread⟩
      refine readStatesFrom_eq_error (fun b hb => (exists_readState_iff 0).mpr (hpass b hb)) ?_
      rwa [Nat.zero_add]

theorem Judges.congr {P Q : State → Prop} {states : List State} (h : t.Judges P states)
    (hsame : ∀ s ∈ states, P s ↔ Q s) : t.Judges Q states where
  read := h.read.trans (forall₂_congr hsame)
  refused := by
    rintro ⟨s, hs, hbad⟩
    obtain ⟨before, s', after, e, rfl, hbefore, hrefused, hread, hblames⟩ :=
      h.refused ⟨s, hs, fun hgood => hbad ((hsame s hs).mp hgood)⟩
    refine ⟨before, s', after, e, rfl, fun b hb => ?_, ?_, hread, hblames⟩
    · exact (hsame b (List.mem_append_left _ hb)).mp (hbefore b hb)
    · rwa [← hsame s' (by simp)]

/-- A list of states is read if and only if each of them is accepted; else the first that is not is
told of. Where no list stands for a record, to be accepted is to conform. -/
theorem conforming_read (t : ResourceType) (states : List State) :
    t.Judges t.Accepts states ∧
      ((∀ s ∈ states, t.Unlisted s) → t.Judges t.Conforms states) ∧
      ∀ s, t.Conforms s ↔ t.Accepts s ∧ t.Unlisted s := by
  have haccepts := judges_accepts t states
  refine ⟨haccepts, fun hunlisted => haccepts.congr fun s hs => ?_, fun s => conforms_iff⟩
  rw [conforms_iff, and_iff_left (hunlisted s hs)]

/-- Two firewalls, of which the second has a rule that names no protocol. -/
def twoFirewalls : List State :=
  [.map [("allowed", .list [.map [("IPProtocol", .text "tcp"), ("ports", .list [.text "22"])]]),
      ("id", .text "ssh"), ("kind", .bool true), ("name", .text "ssh"), ("network", .null)],
    .map [("allowed", .list [.map [("ports", .list [.text "22"])]]), ("id", .text "open"),
      ("name", .text "open")]]

theorem twoFirewalls_checked :
    (∀ s ∈ twoFirewalls, ResourceType.computeFirewall.Unlisted s) ∧
      (∃ s ∈ twoFirewalls, ResourceType.computeFirewall.Conforms s) ∧
      ResourceType.computeFirewall.Judges ResourceType.computeFirewall.Conforms twoFirewalls ∧
      ResourceType.computeFirewall.readStates twoFirewalls = .error
        (.deserialize "google_compute_firewall" "value #1: missing field \x60IPProtocol\x60") := by
  have hunlisted : ∀ s ∈ twoFirewalls, ResourceType.computeFirewall.Unlisted s := by
    intro s hs entries hmap
    rcases List.mem_pair.mp hs with rfl | rfl
    · obtain rfl := State.map.inj hmap
      simp [Fields.Unlisted, Shape.Unlisted, State.toEntries, State.toJson, State.toItems,
        Dict.find?]
    · obtain rfl := State.map.inj hmap
      simp [Fields.Unlisted, Shape.Unlisted, State.toEntries, State.toJson, State.toItems,
        Dict.find?]
  refine ⟨hunlisted, ?_, (conforming_read .computeFirewall twoFirewalls).2.1 hunlisted, by rfl⟩
  refine ⟨_, List.mem_cons_self, _, rfl, ?_⟩
  simp [Fields.Fit, Shape.Fits, Presence.Admits, Presence.nullable, State.toEntries, State.toJson,
    State.toItems, Dict.find?]

def listedNetwork : State :=
  .map [("id", .text "default"), ("name", .text "default"),
    ("routingConfig", .list [.text "REGIONAL"])]

/-- A list passes for a record within a map, though not for the map itself. -/
theorem listedNetwork_read :
    ResourceType.computeNetwork.readStates [listedNetwork] =
        .ok [.computeNetwork ⟨"default", "default", none, some ⟨some "REGIONAL"⟩, [], none⟩] ∧
      ¬ResourceType.computeNetwork.Conforms listedNetwork ∧
      ¬ResourceType.computeNetwork.Judges ResourceType.computeNetwork.Conforms [listedNetwork] := by
  have hread : ResourceType.computeNetwork.readStates [listedNetwork] =
      .ok [.computeNetwork ⟨"default", "default", none, some ⟨some "REGIONAL"⟩, [], none⟩] := rfl
  have hlisted : ¬ResourceType.computeNetwork.Conforms listedNetwork := by
    rintro ⟨entries, hmap, hfit⟩
    obtain rfl := State.map.inj hmap
    simp [Fields.Fit, Shape.Fits, Presence.Admits, Presence.nullable, State.toEntries,
      State.toJson, State.toItems, Dict.find?] at hfit
  refine ⟨hread, hlisted, fun hjudges => hlisted ?_⟩
  exact hjudges.read.mp ⟨_, hread⟩ _ List.mem_cons_self

end ResourceType

end CloudInventory
