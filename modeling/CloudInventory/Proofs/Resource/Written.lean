import CloudInventory.Json.Shape
import CloudInventory.Proofs.Dict

/-! Written values and what is read from them. The order of an object's entries does not matter to
its reading, so a value is taken with its objects in key order, as every JSON value is that was
read. A record holds its data if each of its fields does. -/

namespace CloudInventory

namespace Json

theorem itemsInKeyOrder_eq (vs : List Json) : itemsInKeyOrder vs = vs.map inKeyOrder := by
  induction vs with
  | nil => rfl
  | cons v vs ih => simp [itemsInKeyOrder, ih]

theorem entriesInKeyOrder_eq (entries : Dict Json) :
    entriesInKeyOrder entries = entries.mapValues inKeyOrder := by
  induction entries with
  | nil => rfl
  | cons e rest ih => simpa [entriesInKeyOrder, Dict.mapValues] using ih

theorem inKeyOrder_array (vs : List Json) :
    inKeyOrder (.array vs) = .array (vs.map inKeyOrder) := by
  rw [inKeyOrder, itemsInKeyOrder_eq]

theorem inKeyOrder_object (entries : Dict Json) :
    inKeyOrder (.object entries) = .object (Dict.ofList (entries.mapValues inKeyOrder)) := by
  rw [inKeyOrder, entriesInKeyOrder_eq]

theorem inKeyOrder_stringDict {d : Dict String} (h : d.Ascending) :
    inKeyOrder (stringDict d) = stringDict d := by
  have hsame : (d.mapValues Json.string).mapValues inKeyOrder = d.mapValues Json.string := by
    simp [Dict.mapValues, Function.comp_def, inKeyOrder]
  rw [stringDict, inKeyOrder_object, hsame, (h.mapValues Json.string).ofList_eq]

theorem find?_inKeyOrder {entries : Dict Json} (h : (entries.map (·.1)).Nodup)
    {e : String × Json} (he : e ∈ entries) :
    Dict.find? e.1 (Dict.ofList (entries.mapValues inKeyOrder)) = some e.2.inKeyOrder := by
  rw [Dict.find?_ofList (Dict.map_fst_mapValues inKeyOrder entries ▸ h), Dict.find?_mapValues,
    Dict.find?_of_mem h he]
  rfl

end Json

/-- What a value that is not null holds, read by a shape. -/
structure Shape.Holds (s : Shape) (v : Json) (c : s.Carrier) : Prop where
  given : v.inKeyOrder ≠ .null
  read : s.read v.inKeyOrder = .ok c

/-- What a value holds for a field. -/
def Presence.Holds (p : Presence) (s : Shape) (v : Json) (a : p.Carrier s.Carrier) : Prop :=
  p.readWith s.read v.inKeyOrder = .ok a

/-- What a list of entries, one for each field in order, holds for all fields. -/
def Fields.Holds : (fs : Fields) → List (String × Json) → fs.Carrier → Prop
  | .nil, [], () => True
  | .nil, _ :: _, () => False
  | .cons .., [], _ => False
  | .cons key shape presence rest, (k, v) :: entries, (a, c) =>
    k = key ∧ presence.Holds shape v a ∧ rest.Holds entries c

namespace Presence.Holds

variable {s : Shape} {v : Json} {c : s.Carrier}

theorem readWith_given {p : Presence} (h : s.Holds v c) :
    p.readWith s.read v.inKeyOrder = .ok (p.given c) := by
  obtain ⟨hgiven, hread⟩ := h
  unfold readWith
  split
  · next _ hnull => exact absurd hnull hgiven
  · rw [hread]
    rfl

theorem required (h : s.Holds v c) : Presence.Holds .required s v c := readWith_given h

theorem defaulted (h : s.Holds v c) : Presence.Holds .defaulted s v (some c) := readWith_given h

/-- Null stands for no value. -/
theorem optionalMap {α : Type} {f : α → Json} {g : α → s.Carrier} (h : ∀ a, s.Holds (f a) (g a))
    (o : Option α) : Presence.Holds .optional s (.ofOption f o) (o.map g) := by
  cases o with
  | none => rfl
  | some a => exact readWith_given (h a)

theorem optional {f : s.Carrier → Json} (h : ∀ c, s.Holds (f c) c) (o : Option s.Carrier) :
    Presence.Holds .optional s (.ofOption f o) o := by
  have hmap := optionalMap (g := id) h o
  rwa [Option.map_id] at hmap

end Presence.Holds

namespace Shape.Holds

theorem text (t : String) : Shape.Holds .text (.string t) t := ⟨nofun, rfl⟩

theorem flag (b : Bool) : Shape.Holds .flag (.bool b) b := ⟨nofun, rfl⟩

theorem word32 (n : UInt32) : Shape.Holds .word32 (.nat n.toNat) n := by
  refine ⟨nofun, ?_⟩
  have hlt : n.toNat < 1 <<< 32 := n.toNat_lt
  simp only [Json.nat, Json.inKeyOrder, Shape.read, readWord32, Int.toNat_natCast, hlt]
  simp

theorem readEach_map {α β : Type} {read : Json → Except Misfit β} {f : α → Json} {g : α → β}
    {l : List α} (h : ∀ a ∈ l, read (f a) = .ok (g a)) :
    readEach read (l.map f) = .ok (l.map g) := by
  induction l with
  | nil => rfl
  | cons a l ih =>
    have hrest := ih fun b hb => h b (List.mem_cons_of_mem a hb)
    simp [readEach, h a List.mem_cons_self, hrest, Except.map]

theorem list {s : Shape} {α : Type} {f : α → Json} {g : α → s.Carrier} {l : List α}
    (h : ∀ a ∈ l, s.Holds (f a) (g a)) : Shape.Holds (.list s) (.array (l.map f)) (l.map g) := by
  constructor
  · rw [Json.inKeyOrder_array]
    nofun
  · rw [Json.inKeyOrder_array, List.map_map, Shape.read]
    exact readEach_map fun a ha => (h a ha).read

theorem strings (ss : List String) : Shape.Holds (.list .text) (.strings ss) ss := by
  have hlist : Shape.Holds (.list .text) (.strings ss) (ss.map id) := list fun t _ => text t
  rwa [List.map_id] at hlist

theorem readEntry_stringDict (d : Dict String) :
    readEntry (Shape.read .text) (d.mapValues .string) = .ok d := by
  induction d with
  | nil => rfl
  | cons e rest ih =>
    simp only [Dict.mapValues] at ih
    simp [Dict.mapValues, readEntry, Shape.read, ih, Except.map]

theorem stringDict {d : Dict String} (h : d.Ascending) :
    Shape.Holds (.dict .text) (.stringDict d) d := by
  constructor
  · rw [Json.inKeyOrder_stringDict h]
    simp [Json.stringDict]
  · rw [Json.inKeyOrder_stringDict h]
    exact readEntry_stringDict d

end Shape.Holds

/-- Entries that hold the data of all fields are read as these data wherever they are found. -/
theorem Fields.readEntries_of_holds {fs : Fields} {entries all : List (String × Json)}
    {c : fs.Carrier} (h : fs.Holds entries c)
    (hall : ∀ e ∈ entries, Dict.find? e.1 all = some e.2.inKeyOrder) :
    fs.readEntries all = .ok c := by
  induction entries generalizing fs with
  | nil =>
    cases fs with
    | nil => rfl
    | cons => exact h.elim
  | cons e entries ih =>
    cases fs with
    | nil => exact h.elim
    | cons key shape presence rest =>
      obtain ⟨rfl, hhere, hrest⟩ := h
      have hread : presence.readWith shape.read e.2.inKeyOrder = .ok c.1 := hhere
      have hothers : rest.readEntries all = .ok c.2 :=
        ih hrest fun e' he' => hall e' (List.mem_cons_of_mem e he')
      simp [Fields.readEntries, hall e List.mem_cons_self, hread, hothers, bothFields]

def Fields.keys : Fields → List String
  | .nil => []
  | .cons key _ _ rest => key :: rest.keys

theorem Fields.Holds.keys {fs : Fields} {entries : List (String × Json)} {c : fs.Carrier}
    (h : fs.Holds entries c) : entries.map (·.1) = fs.keys := by
  induction entries generalizing fs with
  | nil =>
    cases fs with
    | nil => rfl
    | cons => exact h.elim
  | cons e entries ih =>
    cases fs with
    | nil => exact h.elim
    | cons key shape presence rest =>
      obtain ⟨hkey, _, hrest⟩ := h
      rw [List.map_cons, Fields.keys, ih hrest, show e.1 = key from hkey]

theorem Shape.Holds.record {name : String} {fs : Fields} {entries : List (String × Json)}
    {c : fs.Carrier} (h : fs.Holds entries c) (hkeys : fs.keys.Nodup) :
    Shape.Holds (.record name fs) (.object entries) c := by
  constructor
  · rw [Json.inKeyOrder_object]
    nofun
  · have hread := Fields.readEntries_of_holds h fun e he =>
      Json.find?_inKeyOrder (h.keys ▸ hkeys) he
    rw [Json.inKeyOrder_object, Shape.read, hread]

end CloudInventory
