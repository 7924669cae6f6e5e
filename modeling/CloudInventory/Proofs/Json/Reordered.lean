import CloudInventory.Json.Reader
import CloudInventory.Proofs.Resource.Written
import CloudInventory.Text.Blank

/-! The order of keys in a text. A text writes the entries of an object in some order, and the
reader puts them into that of their keys, so that two texts which differ in nothing but the order of
keys are read alike. -/

namespace CloudInventory.Json

open Reading (peekToken isSpace)

mutual

/-- The value at the front of a text, with the entries of its objects as they are written. -/
def readWritten : (fuel depth : Nat) → Reading Json
  | 0, _ => .failNext .endInValue
  | fuel + 1, depth => do
    match ← peekToken with
    | none => .failNext .endInValue
    | some 'n' => Reading.drop; Reading.word ['u', 'l', 'l']; return .null
    | some 't' => Reading.drop; Reading.word ['r', 'u', 'e']; return .bool true
    | some 'f' => Reading.drop; Reading.word ['a', 'l', 's', 'e']; return .bool false
    | some '-' => Reading.drop; return .number (← readNumber true)
    | some '"' => Reading.drop; return .string (← readString)
    | some '[' =>
      match depth with
      | 0 => .failNext .tooDeep
      | depth + 1 =>
        Reading.drop
        return .array (← readWrittenItems fuel depth true)
    | some '\x7b' =>
      match depth with
      | 0 => .failNext .tooDeep
      | depth + 1 =>
        Reading.drop
        return .object (← readWrittenEntries fuel depth true)
    | some c =>
      if c.isDigit then return .number (← readNumber false) else .failNext .expectedValue

def readWrittenItems : (fuel depth : Nat) → Bool → Reading (List Json)
  | 0, _, _ => .failNext .endInList
  | fuel + 1, depth, first => do
    if ← moreItems first then
      let v ← readWritten fuel depth
      return v :: (← readWrittenItems fuel depth false)
    else return []

def readWrittenEntries : (fuel depth : Nat) → Bool → Reading (List (String × Json))
  | 0, _, _ => .failNext .endInObject
  | fuel + 1, depth, first => do
    match ← nextKey first with
    | none => return []
    | some k =>
      let v ← readWritten fuel depth
      return (k, v) :: (← readWrittenEntries fuel depth false)

end

def readWrittenText : Reading Json := do
  let v ← readWritten (stepsFor (← get)) maxDepth
  readEnd
  return v

/-- The value that a text writes, the entries of its objects being in the order of the text. -/
def written? (text : String) : Option Json :=
  match readWrittenText.run text.toList with
  | .ok (v, _) => some v
  | .error _ => none

section Reading

theorem map_failNext {α β : Type} (f : α → β) (flaw : Flaw) :
    f <$> (Reading.failNext flaw : Reading α) = Reading.failNext flaw := rfl

theorem reads_eq (fuel : Nat) :
    (∀ depth, readValue fuel depth = inKeyOrder <$> readWritten fuel depth) ∧
      (∀ depth first, readItems fuel depth first =
        itemsInKeyOrder <$> readWrittenItems fuel depth first) ∧
      ∀ depth first, readEntries fuel depth first =
        entriesInKeyOrder <$> readWrittenEntries fuel depth first := by
  induction fuel with
  | zero =>
    refine ⟨fun depth => ?_, fun depth first => ?_, fun depth first => ?_⟩
    · rw [readValue.eq_def, readWritten.eq_def]
      rfl
    · rw [readItems.eq_def, readWrittenItems.eq_def]
      rfl
    · rw [readEntries.eq_def, readWrittenEntries.eq_def]
      rfl
  | succ fuel ih =>
    obtain ⟨hvalue, hitems, hentries⟩ := ih
    refine ⟨fun depth => ?_, fun depth first => ?_, fun depth first => ?_⟩
    · rw [readValue.eq_def, readWritten.eq_def]
      simp only [map_bind]
      refine bind_congr fun token => ?_
      split
      case h_1 => rfl
      case h_7 =>
        cases depth with
        | zero => rfl
        | succ depth => simp [hitems, inKeyOrder]
      case h_8 =>
        cases depth with
        | zero => rfl
        | succ depth => simp [hentries, inKeyOrder]
      case h_9 =>
        split <;> simp_all [inKeyOrder, map_failNext]
      all_goals simp [inKeyOrder]
    · simp only [readItems, readWrittenItems, map_bind, hvalue, hitems]
      refine bind_congr fun more => ?_
      cases more <;> simp [itemsInKeyOrder]
    · simp only [readEntries, readWrittenEntries, map_bind, hvalue, hentries]
      refine bind_congr fun key => ?_
      cases key <;> simp [entriesInKeyOrder]

theorem readText_eq_map : readText = inKeyOrder <$> readWrittenText := by
  simp only [readText, readWrittenText, map_bind, map_pure]
  refine bind_congr fun cs => ?_
  rw [(reads_eq (stepsFor cs)).1, bind_map_left]

/-- The reader takes a text for what it writes, each object in the order of its keys. -/
theorem parse_eq_ok_iff {text : String} {v : Json} :
    parse text = .ok v ↔ ∃ w, written? text = some w ∧ v = w.inKeyOrder := by
  have hread : readText.run text.toList =
      (fun p => (p.1.inKeyOrder, p.2)) <$> readWrittenText.run text.toList := by
    rw [readText_eq_map, StateT.run_map]
  rw [parse, written?, hread]
  cases readWrittenText.run text.toList with
  | error fault => simp [Functor.map, Except.map]
  | ok p => simp [Functor.map, Except.map, eq_comm]

theorem parse_of_written {text : String} {w : Json} (h : written? text = some w) :
    parse text = .ok w.inKeyOrder := parse_eq_ok_iff.mpr ⟨w, h, rfl⟩

end Reading

section Blank

variable {c : Char} {cs : List Char}

theorem not_isBlank_of_isDigit (h : c.isDigit = true) : Text.isBlank c = false := by
  obtain ⟨hlow, hhigh⟩ : 48 ≤ c.toNat ∧ c.toNat ≤ 57 := by
    simp only [Char.isDigit, Bool.and_eq_true, decide_eq_true_eq] at h
    exact h
  simp only [Text.isBlank, Bool.or_eq_false_iff, Bool.and_eq_false_iff, beq_eq_false_iff_ne,
    decide_eq_false_iff_not]
  omega

theorem readWritten_of_blank (h : cs.all Text.isBlank = true) (fuel depth : Nat) :
    ∃ fault, readWritten fuel depth cs = .error fault := by
  cases fuel with
  | zero => exact ⟨_, rfl⟩
  | succ fuel =>
    have hbind : ∀ rest : Option Char → Reading Json, (peekToken >>= rest) cs =
        rest (cs.dropWhile isSpace).head? (cs.dropWhile isSpace) := fun rest => rfl
    rw [readWritten.eq_def]
    simp only [hbind]
    cases hrest : cs.dropWhile isSpace with
    | nil => exact ⟨_, rfl⟩
    | cons c more =>
      have hmem : c ∈ cs := (List.dropWhile_sublist _).subset (hrest ▸ List.mem_cons_self)
      have hblank : Text.isBlank c = true := List.all_eq_true.mp h c hmem
      have hne : ∀ d, Text.isBlank d = false → c ≠ d := by
        rintro d hd rfl
        rw [hblank] at hd
        cases hd
      have hdigit : ¬c.isDigit = true := fun h => by simp [not_isBlank_of_isDigit h] at hblank
      rw [List.head?_cons]
      generalize htoken : some c = token
      split
      case h_9 =>
        rw [← Option.some.inj htoken, if_neg hdigit]
        exact ⟨_, rfl⟩
      all_goals first | exact ⟨_, rfl⟩ | exact absurd (Option.some.inj htoken) (hne _ rfl)

/-- A text that writes a value is not blank. -/
theorem not_blank_of_written {text : String} {w : Json} (h : written? text = some w) :
    text.toList.all Text.isBlank = false := by
  by_contra hblank
  obtain ⟨fault, hfault⟩ := readWritten_of_blank (Bool.not_eq_false _ ▸ hblank)
    (stepsFor text.toList) maxDepth
  have hrun : readWrittenText.run text.toList = .error fault := by
    simp only [readWrittenText, StateT.run_bind, StateT.run_get, pure_bind]
    rw [StateT.run, hfault]
    rfl
  rw [written?, hrun] at h
  cases h

end Blank

section Parts

variable (v : Json) {entries sorted : Dict Json}

theorem items?_inKeyOrder : v.inKeyOrder.items? = v.items?.map (List.map inKeyOrder) := by
  cases v <;> simp [inKeyOrder, items?, itemsInKeyOrder_eq]

theorem entries?_inKeyOrder : v.inKeyOrder.entries? =
    v.entries?.map fun entries => Dict.ofList (Dict.mapValues inKeyOrder entries) := by
  cases v <;> simp [inKeyOrder, entries?, entriesInKeyOrder_eq]

theorem string?_inKeyOrder : v.inKeyOrder.string? = v.string? := by
  cases v <;> simp [inKeyOrder, string?]

theorem field?_inKeyOrder (h : (entries.map (·.1)).Nodup) (key : String) :
    (inKeyOrder (.object entries)).field? key = (Dict.find? key entries).map inKeyOrder := by
  rw [inKeyOrder_object, field?,
    Dict.find?_ofList (Dict.map_fst_mapValues inKeyOrder entries ▸ h), Dict.find?_mapValues]

theorem inKeyOrder_of_perm (hperm : entries.Perm sorted) (hsorted : sorted.Ascending) :
    inKeyOrder (.object entries) = .object (Dict.mapValues inKeyOrder sorted) := by
  have hmapped : (Dict.mapValues inKeyOrder entries).Perm (Dict.mapValues inKeyOrder sorted) :=
    hperm.map _
  have hascending : (Dict.mapValues inKeyOrder sorted).Ascending := hsorted.mapValues _
  have hkeys := ((hmapped.map (·.1)).nodup_iff).mpr hascending.nodup_keys
  rw [inKeyOrder_object, Dict.ofList_perm hmapped hkeys, hascending.ofList_eq]

theorem ascending_of_inKeyOrder {w : Json} (h : object entries = w.inKeyOrder) :
    entries.Ascending := by
  cases w with
  | object written =>
    rw [inKeyOrder_object, object.injEq] at h
    exact h ▸ Dict.ofList_ascending _
  | array items =>
    rw [inKeyOrder_array] at h
    cases h
  | null | bool | number | string => cases h

end Parts

/-- Values that differ in nothing but the order of entries in their objects. -/
inductive Reordered : Json → Json → Prop
  | refl (v : Json) : Reordered v v
  | trans {u v w : Json} : Reordered u v → Reordered v w → Reordered u w
  | entries {entries others : List (String × Json)} : entries.Perm others →
      (entries.map (·.1)).Nodup → Reordered (.object entries) (.object others)
  | item {v w : Json} (before after : List Json) : Reordered v w →
      Reordered (.array (before ++ v :: after)) (.array (before ++ w :: after))
  | entry {v w : Json} (before after : List (String × Json)) (key : String) : Reordered v w →
      Reordered (.object (before ++ (key, v) :: after)) (.object (before ++ (key, w) :: after))

theorem Reordered.inKeyOrder_eq {v w : Json} (h : Reordered v w) :
    v.inKeyOrder = w.inKeyOrder := by
  induction h with
  | refl => rfl
  | trans _ _ ih ih' => exact ih.trans ih'
  | @entries entries others hperm hkeys =>
    have hmapped : (Dict.mapValues inKeyOrder entries).Perm (Dict.mapValues inKeyOrder others) :=
      hperm.map _
    have hsame := Dict.ofList_perm hmapped (Dict.map_fst_mapValues inKeyOrder entries ▸ hkeys)
    rw [inKeyOrder_object, inKeyOrder_object, hsame]
  | item before after _ ih => simp only [inKeyOrder_array, List.map_append, List.map_cons, ih]
  | entry before after key _ ih =>
    simp only [inKeyOrder_object, Dict.mapValues, List.map_append, List.map_cons, ih]

/-- Texts that differ in nothing but the order of keys are read alike. -/
theorem parse_of_reordered {text other : String} {v w : Json} (hv : written? text = some v)
    (hw : written? other = some w) (h : Reordered v w) : parse text = parse other := by
  rw [parse_of_written hv, parse_of_written hw, h.inKeyOrder_eq]

end CloudInventory.Json
