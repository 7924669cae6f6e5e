import CloudInventory.Listing
import Mathlib.Data.List.Forall2

/-! Listings by their exchanges. A listing that is done has made the calls for all pages of all
parents, each of them once and in order, and has identified every item of every page; one that has
failed did so at its last exchange. -/

namespace CloudInventory

theorem exists_of_forall₂ {α β : Type} {R : α → β → Prop} {l : List α} {l' : List β}
    (h : l.Forall₂ R l') {b : β} (hb : b ∈ l') : ∃ a ∈ l, R a b := by
  induction h with
  | nil => cases hb
  | @cons a b' l l' hab _ ih =>
    rcases List.mem_cons.mp hb with rfl | hb
    · exact ⟨a, List.mem_cons_self, hab⟩
    · obtain ⟨a', ha', hrel⟩ := ih hb
      exact ⟨a', List.mem_cons_of_mem _ ha', hrel⟩

abbrev Exchange := (ListRequest × Option String) × Except Error (Page Json)

namespace Listing

inductive Heard (t : ResourceType) (project : String) : List Exchange → Listing → Prop
  | start : Heard t project [] start
  | next {ex l call} (answer : Except Error (Page Json)) : Heard t project ex l →
      l.request? t project = some call → Heard t project (ex ++ [(call, answer)]) (l.feed t answer)

inductive Walked (d : Definition) (request : ListRequest) :
    Option String → List Exchange → List Json → Prop
  | start : Walked d request none [] []
  | next {cursor ex items page next} : Walked d request cursor ex items → d.paged = true →
      page.last = false → page.next = some next →
      Walked d request (some next) (ex ++ [((request, cursor), .ok page)]) (items ++ page.items)

/-- All pages of a listing; of one without pages, whatever its only answer holds. -/
inductive Complete (d : Definition) (request : ListRequest) : List Exchange → List Json → Prop
  | last {cursor ex items page} : Walked d request cursor ex items →
      (d.paged = true → page.last = true) →
      Complete d request (ex ++ [((request, cursor), .ok page)]) (items ++ page.items)

def firstRequest (t : ResourceType) (project : String) : ListRequest :=
  (firstDefinition t).listRequest project []

def childRequest (t : ResourceType) (n : Nesting) (project parent : String) : ListRequest :=
  t.definition.listRequest project [(n.parentKey, parent)]

/-- The listings below the parents, one after another, with their items under the parents' names. -/
inductive Below (t : ResourceType) (n : Nesting) (project : String) :
    List Json → List Exchange → List (Option String × Json) → Prop
  | start : Below t n project [] [] []
  | next {parents parent name ex ex' items listed} : Below t n project parents ex listed →
      itemField parent n.parentField n.parent.name = .ok name →
      Complete t.definition (childRequest t n project name) ex' items →
      Below t n project (parents ++ [parent]) (ex ++ ex') (listed ++ items.map (some name, ·))

/-- A whole listing, with all items under the names of their parents. -/
inductive Lists (t : ResourceType) (project : String) :
    List Exchange → List (Option String × Json) → Prop
  | flat {ex items} : t.nesting? = none → Complete t.definition (firstRequest t project) ex items →
      Lists t project ex (items.map (none, ·))
  | nested {n ex ex' parents listed} : t.nesting? = some n →
      Complete n.parent.definition (firstRequest t project) ex parents →
      Below t n project parents ex' listed → Lists t project (ex ++ ex') listed

/-- The read arguments of a listed item. -/
def identify (t : ResourceType) (x : Option String × Json) : Except Error ReadArgs :=
  match t.nesting?, x.1 with
  | some n, some parent => childArgs t n parent x.2
  | _, _ => t.definition.readArgs t.name x.2

/-- The type that a failed call stands for, when that is not the type to be listed. -/
def blamed (t : ResourceType) : Listing → Option String
  | .first _ => t.definition.requires
  | _ => none

/-- What a listing's exchanges make of it. -/
inductive Stands (t : ResourceType) (project : String) : List Exchange → Listing → Prop
  | first {cursor ex items pages} :
      Walked (firstDefinition t) (firstRequest t project) cursor ex items →
      Stands t project ex (.first (.asking cursor items pages))
  | child {n ex ex' ex'' listed before parent name others cursor items pages found} :
      t.nesting? = some n →
      Complete n.parent.definition (firstRequest t project) ex (before ++ parent :: others) →
      itemField parent n.parentField n.parent.name = .ok name →
      Below t n project before ex' listed →
      listed.Forall₂ (identify t · = .ok ·) found →
      Walked t.definition (childRequest t n project name) cursor ex'' items →
      Stands t project (ex ++ ex' ++ ex'') (.below name others (.asking cursor items pages) found)
  | done {ex listed args} : Lists t project ex listed →
      listed.Forall₂ (identify t · = .ok ·) args → Stands t project ex (.done (.ok args))
  | failed {ex call e} (listed : Option String) :
      Stands t project (ex ++ [(call, .error e)]) (failed e listed)
  | faulty {ex call e} (page : Page Json) (listed : Option String) : e.isForbidden = false →
      Stands t project (ex ++ [(call, .ok page)]) (failed e listed)

/-- The first failure of these exchanges is a call that the service refused. -/
def Refused (t : ResourceType) (project : String) (ex : List Exchange) (f : ListingFailure) :
    Prop :=
  ∃ before l call, Heard t project before l ∧ l.request? t project = some call ∧
    ex = before ++ [(call, .error f.error)] ∧ f.error.isForbidden = true ∧ f.listed = l.blamed t

/-- The refused call was one for the parents, or for another type that stands for this one. -/
def PrerequisiteRefused (t : ResourceType) (project : String) (ex : List Exchange) : Prop :=
  ∃ before walk call e, Heard t project before (.first walk) ∧
    request? t project (.first walk) = some call ∧
    ex = before ++ [(call, .error e)] ∧ e.isForbidden = true

section Faults

variable {t : ResourceType} {item : Json} {e : Error}

theorem bind_error {x : Except Error α} {f : α → Except Error β} (h : x >>= f = .error e) :
    x = .error e ∨ ∃ a, x = .ok a ∧ f a = .error e := by
  cases x with
  | error d => exact .inl (congrArg Except.error (Except.error.inj h))
  | ok a => exact .inr ⟨a, rfl, h⟩

theorem bind_ok {x : Except Error α} {f : α → Except Error β} {b : β} (h : x >>= f = .ok b) :
    ∃ a, x = .ok a ∧ f a = .ok b := by
  cases x with
  | error d => cases h
  | ok a => exact ⟨a, rfl, h⟩

theorem itemField_error {field type : String} (h : itemField item field type = .error e) :
    e.isForbidden = false := by
  unfold itemField at h
  split at h
  · cases h
  · cases h
    rfl

theorem itemAttributes_error {type : String} {attributes : Dict String}
    (h : Definition.itemAttributes type item attributes = .error e) : e.isForbidden = false := by
  induction attributes with
  | nil => cases h
  | cons entry rest ih =>
    rcases bind_error h with hv | ⟨value, _, h⟩
    · exact itemField_error hv
    · rcases bind_error h with hr | ⟨others, _, h⟩
      · exact ih hr
      · cases h

theorem readArgs_error {d : Definition} {type : String} (h : d.readArgs type item = .error e) :
    e.isForbidden = false := by
  rcases bind_error h with hid | ⟨id, _, h⟩
  · exact itemField_error hid
  · rcases bind_error h with ha | ⟨attributes, _, h⟩
    · exact itemAttributes_error ha
    · cases h

theorem childId_error {parent id : String} (h : childId t parent item id = .error e) :
    e.isForbidden = false := by
  unfold childId at h
  split at h
  · rcases bind_error h with hn | ⟨name, _, h⟩
    · exact itemField_error hn
    · rcases bind_error h with ht | ⟨type, _, h⟩
      · exact itemField_error ht
      · cases h
  · cases h

theorem childArgs_error {n : Nesting} {parent : String} (h : childArgs t n parent item = .error e) :
    e.isForbidden = false := by
  rcases bind_error h with ha | ⟨args, _, h⟩
  · exact readArgs_error ha
  · rcases bind_error h with hc | ⟨id, _, h⟩
    · exact childId_error hc
    · cases h

theorem identifyAll_error {f : Json → Except Error ReadArgs} {items : List Json}
    (hf : ∀ item e, f item = .error e → e.isForbidden = false)
    (h : identifyAll f items = .error e) : e.isForbidden = false := by
  induction items with
  | nil => cases h
  | cons item items ih =>
    rcases bind_error h with hi | ⟨args, _, h⟩
    · exact hf item e hi
    · rcases bind_error h with hr | ⟨others, _, h⟩
      · exact ih hr
      · cases h

theorem identifyAll_ok {f : Json → Except Error ReadArgs} {items : List Json}
    {args : List ReadArgs} (h : identifyAll f items = .ok args) :
    items.Forall₂ (f · = .ok ·) args := by
  induction items generalizing args with
  | nil =>
    cases h
    exact .nil
  | cons item items ih =>
    obtain ⟨a, ha, h⟩ := bind_ok h
    obtain ⟨others, hr, h⟩ := bind_ok h
    exact Except.ok.inj h ▸ .cons ha (ih hr)

end Faults

end Listing

end CloudInventory
