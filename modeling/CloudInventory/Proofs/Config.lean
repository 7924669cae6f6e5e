import CloudInventory.Config
import CloudInventory.Proofs.Dict
import CloudInventory.Proofs.Json.Printed
import CloudInventory.Proofs.Text.Order

/-! A stored configuration is read back as it is, whatever texts it holds. What keeps the excluded
types in order is that every configuration comes from a file or from none, and takes in further
exclusions at their places. -/

namespace CloudInventory

namespace Config

open Json (Reads Restored Layout)

section Names

variable {name other : String} {names into : List String}

def InOrder (names : List String) : Prop := names.Pairwise (· < ·)

theorem mem_insertName : other ∈ insertName name into ↔ other = name ∨ other ∈ into := by
  induction into with
  | nil => simp [insertName]
  | cons n rest ih =>
    rw [insertName]
    split
    · simp
    · split
      · next heq => simp [heq]
      · simp only [List.mem_cons, ih]
        exact or_left_comm

theorem mem_insertNames : other ∈ insertNames names into ↔ other ∈ names ∨ other ∈ into := by
  induction names generalizing into with
  | nil => simp [insertNames]
  | cons name names ih =>
    rw [insertNames, List.foldl_cons]
    refine ih.trans ?_
    rw [mem_insertName, List.mem_cons, or_left_comm, or_assoc]

theorem InOrder.insertName (h : InOrder into) (name : String) : InOrder (insertName name into) := by
  induction into with
  | nil => exact List.pairwise_singleton _ _
  | cons n rest ih =>
    obtain ⟨hn, hrest⟩ := List.pairwise_cons.mp h
    rw [Config.insertName]
    split
    · next hlt =>
      refine List.pairwise_cons.mpr ⟨fun other hother => ?_, h⟩
      rcases List.mem_cons.mp hother with rfl | hother
      · exact hlt
      · exact String.lt_trans hlt (hn other hother)
    · next hlt =>
      split
      · exact h
      · next hne =>
        refine List.pairwise_cons.mpr ⟨fun other hother => ?_, ih hrest⟩
        rcases mem_insertName.mp hother with rfl | hother
        · exact Dict.lt_of_not_lt_of_ne hlt hne
        · exact hn other hother

theorem InOrder.insertNames (h : InOrder into) (names : List String) :
    InOrder (insertNames names into) := by
  induction names generalizing into with
  | nil => exact h
  | cons name names ih => exact ih (h.insertName name)

/-- A name past all others is put at the end. -/
theorem insertName_last (h : ∀ n ∈ into, n < name) : insertName name into = into ++ [name] := by
  induction into with
  | nil => rfl
  | cons n rest ih =>
    have hn : n < name := h n List.mem_cons_self
    rw [insertName, if_neg (String.lt_asymm hn), if_neg (String.ne_of_lt hn).symm,
      ih fun other hother => h other (List.mem_cons_of_mem _ hother), List.cons_append]

theorem insertNames_append (h : InOrder (into ++ names)) :
    insertNames names into = into ++ names := by
  induction names generalizing into with
  | nil => simp [insertNames]
  | cons name names ih =>
    have hlast : ∀ n ∈ into, n < name := fun n hn =>
      (List.pairwise_append.mp h).2.2 n hn name List.mem_cons_self
    rw [List.append_cons] at h ⊢
    rw [insertNames, List.foldl_cons, insertName_last hlast]
    exact ih h

end Names

section Storage

variable {c : Config}

def entries (c : Config) : List (String × Json) :=
  [("project_id", Json.ofOption .string c.project),
    ("parallelism", .nat c.parallelism.toNat),
    ("exclude", .strings c.exclude),
    ("api_root", Json.ofOption .string c.apiRoot)]

theorem restored_name (l : Layout) (depth : Nat) (name? : Option String) :
    Restored l depth (Json.ofOption .string name?) := by
  cases name? with
  | none => exact .null
  | some name => exact .string name

theorem restored_entries (c : Config) : ∀ e ∈ c.entries,
    e.1 ∈ fieldNames ∧ Restored ⟨true⟩ (Json.maxDepth - 1) e.2 := by
  have hcount : c.parallelism.toNat < Json.wordLimit := c.parallelism.toNat_lt
  have hnames : Restored ⟨true⟩ (Json.maxDepth - 1) (.strings c.exclude) := by
    refine Restored.array fun v hv => ?_
    obtain ⟨name, _, rfl⟩ := List.mem_map.mp hv
    exact .string name
  intro e he
  refine ⟨?_, ?_⟩
  · have hkey : e.1 ∈ c.entries.map (·.1) := List.mem_map_of_mem he
    exact hkey
  · simp only [entries, List.mem_cons, List.not_mem_nil, or_false] at he
    rcases he with rfl | rfl | rfl | rfl
    · exact restored_name _ _ _
    · exact .nat hcount
    · exact hnames
    · exact restored_name _ _ _

/-- The text of a configuration is read field by field, to its end. -/
theorem readStored_text (c : Config) : Reads readStored c.text.toList c.entries [] := by
  have hobject : c.text.toList = Json.textAt ⟨true⟩ 0 (.object c.entries) :=
    String.toList_ofList
  have hfuel : 2 * (Json.textAt ⟨true⟩ 0 (.object c.entries)).length ≤
      Json.stepsFor c.text.toList := by
    rw [hobject, Json.stepsFor]
    exact Nat.le_add_right _ _
  obtain ⟨cs, htext, hread⟩ := Json.readKnownEntries_object (restored_entries c) 0 [] hfuel
  rw [List.append_nil] at hread
  have hfields : Reads readFields c.text.toList c.entries [] := by
    refine (Reads.get _).bind ?_
    rw [hobject] at hread ⊢
    rw [show Json.textAt ⟨true⟩ 0 (.object c.entries) = [] ++ '\x7b' :: cs from htext] at hread ⊢
    exact (Reads.peek .nil rfl cs).bind ((Reads.drop _ _).bind hread)
  have hend : Reads Json.readEnd [] () [] := (Reads.peek_end .nil).bind (.pure _ _)
  exact hfields.bind (hend.bind (.pure _ _))

theorem readName?_ofOption (name? : Option String) :
    readName? (Json.ofOption .string name?) = some name? := by
  cases name? <;> rfl

theorem readCount?_nat (n : UInt64) : readCount? (.nat n.toNat) = some n := by
  have hn : (0 : Int) ≤ n.toNat ∧ (n.toNat : Int).toNat < 1 <<< 64 :=
    ⟨Int.natCast_nonneg _, n.toNat_lt⟩
  rw [Json.nat, readCount?, if_pos hn, Int.toNat_natCast, UInt64.ofNat_toNat]

theorem readNames?_strings {names : List String} (h : InOrder names) :
    readNames? (.strings names) = some names := by
  have hmap : (names.map Json.string).mapM Json.string? = some names := by
    induction names with
    | nil => rfl
    | cons name names ih =>
      have hrest := ih (List.pairwise_cons.mp h).2
      simp only [List.map_cons, List.mapM_cons, hrest]
      rfl
  have hsame : insertNames names [] = [] ++ names := insertNames_append h
  simp only [readNames?, Json.strings, Json.items?, Option.bind_some, hmap, Option.map_some, hsame,
    List.nil_append]

theorem ofFields?_entries (h : InOrder c.exclude) : ofFields? c.entries = some c := by
  have hnodup : (c.entries.map (·.1)).Nodup := by
    simp only [entries, List.map_cons, List.map_nil]
    decide
  rw [ofFields?, if_pos hnodup]
  simp only [entries, List.foldlM_cons, List.foldlM_nil, withField?, readName?_ofOption,
    readCount?_nat, readNames?_strings h, Option.map_some, Option.bind_eq_bind, Option.bind_some]
  rfl

theorem ofOctets_text (h : InOrder c.exclude) :
    ofOctets (some (Text.octets c.text)) = c := by
  have hread : readStored.run c.text.toList = .ok (c.entries, []) := readStored_text c
  have htext : ofText? c.text = some c := by
    simp only [ofText?, hread, ofFields?_entries h]
  simp only [ofOctets, Option.bind_some, Text.ofUtf8?_octets, htext, Option.getD_some]

theorem withField?_inOrder {c' : Config} (h : InOrder c.exclude) {field : String × Json}
    (hc : c.withField? field = some c') : InOrder c'.exclude := by
  unfold withField? at hc
  split at hc
  · obtain ⟨_, _, rfl⟩ := Option.map_eq_some_iff.mp hc
    exact h
  · obtain ⟨_, _, rfl⟩ := Option.map_eq_some_iff.mp hc
    exact h
  · obtain ⟨exclude, hread, rfl⟩ := Option.map_eq_some_iff.mp hc
    obtain ⟨names, _, rfl⟩ := Option.map_eq_some_iff.mp hread
    exact InOrder.insertNames .nil names
  · obtain ⟨_, _, rfl⟩ := Option.map_eq_some_iff.mp hc
    exact h
  · cases hc

theorem ofFields?_inOrder {fields : List (String × Json)} (h : ofFields? fields = some c) :
    InOrder c.exclude := by
  have hfold : ∀ (fields : List (String × Json)) (c₀ : Config), InOrder c₀.exclude →
      fields.foldlM withField? c₀ = some c → InOrder c.exclude := by
    intro fields
    induction fields with
    | nil =>
      rintro c₀ h₀ ⟨⟩
      exact h₀
    | cons field fields ih =>
      intro c₀ h₀ hc
      rw [List.foldlM_cons, Option.bind_eq_bind, Option.bind_eq_some_iff] at hc
      obtain ⟨c₁, hfield, hrest⟩ := hc
      exact ih c₁ (withField?_inOrder h₀ hfield) hrest
  unfold ofFields? at h
  split at h
  · exact hfold fields {} .nil h
  · cases h

theorem ofOctets_inOrder (octets : Option (List UInt8)) : InOrder (ofOctets octets).exclude := by
  unfold ofOctets
  cases hread : (octets.bind Text.ofUtf8?).bind ofText? with
  | none => exact .nil
  | some c =>
    obtain ⟨text, _, htext⟩ := Option.bind_eq_some_iff.mp hread
    unfold ofText? at htext
    split at htext
    · exact ofFields?_inOrder htext
    · cases htext

end Storage

end Config

end CloudInventory
