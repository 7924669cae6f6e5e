import CloudInventory.Proofs.Listing.Standing
import CloudInventory.Resource.Basic
import CloudInventory.Scan.Basic

/-! Listings over a source whose answers depend on the request alone. Such a listing comes to one
outcome; where all calls succeed or are refused, and all that they list can be identified and read,
that outcome is a list of readable resources or a refusal. -/

namespace CloudInventory

namespace Source

open Listing (turn firstDefinition firstRequest childRequest identify identifyAll)

variable {source : Source} {d : Definition} {request : ListRequest} {walk : Walk Json}
  {fetched : Except Error (List Json)} {project : String} {t : ResourceType} {l l' : Listing}
  {n k : Nat} {outcome outcome' : Except ListingFailure (List ReadArgs)}

/-- A walk over the pages of a source comes to an end. -/
inductive Fetches (source : Source) (d : Definition) (request : ListRequest) :
    Walk Json → Except Error (List Json) → Prop
  | stopped (fetched : Except Error (List Json)) :
      Fetches source d request (.stopped fetched) fetched
  | asking {cursor gathered pages} {fetched : Except Error (List Json)} :
      Fetches source d request (turn d (source.page request cursor) (.asking cursor gathered pages))
        fetched →
      Fetches source d request (.asking cursor gathered pages) fetched

/-- A list call that succeeds, with items of which `P` holds, or is refused. -/
inductive Answers (source : Source) (d : Definition) (request : ListRequest)
    (P : List Json → Prop) : Prop
  | items {items} : Fetches source d request Walk.start (.ok items) → P items →
      Answers source d request P
  | refused {e} : Fetches source d request Walk.start (.error e) → e.isForbidden = true →
      Answers source d request P

/-- What a read gives as a resource of its type. -/
def Reads (source : Source) (t : ResourceType) (args : ReadArgs) (resource : Resource) : Prop :=
  ∃ state, source.state args = .ok state ∧ t.readState 0 state = .ok resource

/-- A listed item that is well formed, and whose read succeeds with a well-formed value. -/
def Readable (source : Source) (t : ResourceType) (x : Option String × Json) : Prop :=
  ∃ args, identify t x = .ok args ∧ ∃ resource, source.Reads t args resource

/-- Every list call for a type succeeds or is refused, every listed item is well formed, and no
read of one fails. -/
def Regular (source : Source) (project : String) (t : ResourceType) : Prop :=
  Answers source (firstDefinition t) (firstRequest t project) fun items =>
    match t.nesting? with
    | none => ∀ item ∈ items, source.Readable t (none, item)
    | some n => ∀ parent ∈ items, ∃ name,
        itemField parent n.parentField n.parent.name = .ok name ∧
        Answers source t.definition (childRequest t n project name) fun children =>
          ∀ child ∈ children, source.Readable t (some name, child)

/-- A listing over a source is done after `n` calls. -/
inductive Ends (source : Source) (t : ResourceType) (project : String) :
    Nat → Listing → Except ListingFailure (List ReadArgs) → Prop
  | done (outcome : Except ListingFailure (List ReadArgs)) :
      Ends source t project 0 (.done outcome) outcome
  | call {n : Nat} {l : Listing} {call outcome} : l.request? t project = some call →
      Ends source t project n (l.feed t (source.page call.1 call.2)) outcome →
      Ends source t project (n + 1) l outcome

/-- A listing that comes to an end, with whatever outcome. -/
def Terminates (source : Source) (project : String) (t : ResourceType) : Prop :=
  ∃ n outcome, Ends source t project n Listing.start outcome

namespace Ends

theorem unique (h : Ends source t project n l outcome) (h' : Ends source t project k l outcome') :
    n = k ∧ outcome = outcome' := by
  induction h generalizing k with
  | done =>
    cases h' with
    | done => exact ⟨rfl, rfl⟩
    | call hcall => cases hcall
  | @call n l call outcome hcall _ ih =>
    cases h' with
    | done => cases hcall
    | call hcall' h' =>
      obtain rfl := Option.some.inj (hcall.symm.trans hcall')
      obtain ⟨rfl, rfl⟩ := ih h'
      exact ⟨rfl, rfl⟩

theorem next (h : Ends source t project n l outcome) {call : ListRequest × Option String}
    (hcall : l.request? t project = some call) :
    ∃ k, n = k + 1 ∧ Ends source t project k (l.feed t (source.page call.1 call.2)) outcome := by
  cases h with
  | done => cases hcall
  | call hcall' h =>
    obtain rfl := Option.some.inj (hcall.symm.trans hcall')
    exact ⟨_, rfl, h⟩

/-- A listing that has heard nothing but the answers of the source is on its way to the outcome. -/
theorem heard (h : Ends source t project n Listing.start outcome) {ex : List Exchange}
    (hl : Listing.Heard t project ex l) (hex : ∀ x ∈ ex, x.2 = source.page x.1.1 x.1.2) :
    ∃ k, Ends source t project k l outcome := by
  induction hl with
  | start => exact ⟨n, h⟩
  | @next ex l call answer _ hcall ih =>
    obtain ⟨k, hk⟩ := ih fun x hx => hex x (List.mem_append_left _ hx)
    obtain ⟨m, _, hm⟩ := hk.next hcall
    have hanswer : answer = source.page call.1 call.2 := hex (call, answer) (by simp)
    exact ⟨m, hanswer ▸ hm⟩

end Ends

section Walks

theorem ends_first
    (h : Fetches source (firstDefinition t) (firstRequest t project) walk fetched)
    (hends : Ends source t project n (Listing.afterFirst t (.stopped fetched)) outcome) :
    ∃ k, Ends source t project k (Listing.afterFirst t walk) outcome := by
  induction h with
  | stopped => exact ⟨n, hends⟩
  | asking _ ih =>
    obtain ⟨k, hk⟩ := ih hends
    exact ⟨k + 1, .call rfl hk⟩

theorem ends_below {nesting : Nesting} (hn : t.nesting? = some nesting) {name : String}
    (others : List Json) (found : List ReadArgs)
    (h : Fetches source t.definition (childRequest t nesting project name) walk fetched)
    (hends : Ends source t project n
      (Listing.afterBelow t nesting name others found (.stopped fetched)) outcome) :
    ∃ k, Ends source t project k (Listing.afterBelow t nesting name others found walk) outcome := by
  induction h with
  | stopped => exact ⟨n, hends⟩
  | @asking cursor gathered pages _ _ ih =>
    obtain ⟨k, hk⟩ := ih hends
    have hcall : (Listing.below name others (.asking cursor gathered pages) found).request? t
        project = some (childRequest t nesting project name, cursor) := by
      simp [Listing.request?, hn, childRequest]
    have hnext : Ends source t project (k + 1)
        (Listing.below name others (.asking cursor gathered pages) found) outcome :=
      .call hcall (by simpa only [Listing.feed, hn] using hk)
    exact ⟨k + 1, hnext⟩

end Walks

section Outcomes

/-- Resources that can all be read, or a refusal. -/
def IsRegular (source : Source) (t : ResourceType) :
    Except ListingFailure (List ReadArgs) → Prop
  | .ok args => ∀ a ∈ args, ∃ resource, source.Reads t a resource
  | .error f => f.error.isForbidden = true

theorem identifyAll_readable {f : Json → Except Error ReadArgs} {items : List Json}
    (h : ∀ item ∈ items, ∃ args, f item = .ok args ∧ ∃ resource, source.Reads t args resource) :
    ∃ all, identifyAll f items = .ok all ∧ ∀ a ∈ all, ∃ resource, source.Reads t a resource := by
  induction items with
  | nil => exact ⟨[], rfl, by simp⟩
  | cons item items ih =>
    obtain ⟨args, hargs, hread⟩ := h item List.mem_cons_self
    obtain ⟨all, hall, hreads⟩ := ih fun other ho => h other (List.mem_cons_of_mem _ ho)
    refine ⟨args :: all, ?_, List.forall_mem_cons.mpr ⟨hread, hreads⟩⟩
    simp only [identifyAll, hargs, hall]
    rfl

theorem ends_nextParent {nesting : Nesting} (hn : t.nesting? = some nesting) {parents : List Json}
    (hparents : ∀ parent ∈ parents, ∃ name,
      itemField parent nesting.parentField nesting.parent.name = .ok name ∧
      Answers source t.definition (childRequest t nesting project name) fun children =>
        ∀ child ∈ children, source.Readable t (some name, child))
    (found : List ReadArgs) (hfound : ∀ a ∈ found, ∃ resource, source.Reads t a resource) :
    ∃ k outcome, Ends source t project k (Listing.nextParent nesting found parents) outcome ∧
      source.IsRegular t outcome := by
  induction parents generalizing found with
  | nil => exact ⟨0, _, .done _, hfound⟩
  | cons parent others ih =>
    obtain ⟨name, hname, hanswers⟩ := hparents parent List.mem_cons_self
    have hrest := fun parent hp => hparents parent (List.mem_cons_of_mem _ hp)
    have hnext : Listing.nextParent nesting found (parent :: others) =
        Listing.afterBelow t nesting name others found Walk.start := by
      simp only [Listing.nextParent, hname]
      rfl
    rw [hnext]
    cases hanswers with
    | refused hfetch hforb =>
      obtain ⟨k, hk⟩ := ends_below hn others found hfetch (.done _)
      exact ⟨k, _, hk, hforb⟩
    | items hfetch hchildren =>
      obtain ⟨all, hall, hreads⟩ := identifyAll_readable fun child hc => by
        obtain ⟨args, hargs, hread⟩ := hchildren child hc
        exact ⟨args, (Listing.identify_nested hn name child).symm.trans hargs, hread⟩
      obtain ⟨k, outcome, hk, hregular⟩ := ih hrest (found ++ all) fun a ha =>
        (List.mem_append.mp ha).elim (hfound a) (hreads a)
      obtain ⟨m, hm⟩ := ends_below hn others found hfetch
        (by simpa only [Listing.afterBelow, hall] using hk)
      exact ⟨m, outcome, hm, hregular⟩

theorem Regular.ends (h : source.Regular project t) :
    ∃ n outcome, Ends source t project n Listing.start outcome ∧ source.IsRegular t outcome := by
  have hstart : Listing.start = Listing.afterFirst t Walk.start := rfl
  rw [hstart]
  cases h with
  | refused hfetch hforb =>
    obtain ⟨k, hk⟩ := ends_first hfetch (.done _)
    exact ⟨k, _, hk, hforb⟩
  | @items items hfetch hitems =>
    cases hn : t.nesting? with
    | some nesting =>
      simp only [hn] at hitems
      obtain ⟨k, outcome, hk, hregular⟩ := ends_nextParent hn hitems [] (by simp)
      obtain ⟨m, hm⟩ := ends_first hfetch
        (by simpa only [Listing.afterFirst, hn] using hk)
      exact ⟨m, outcome, hm, hregular⟩
    | none =>
      simp only [hn] at hitems
      obtain ⟨all, hall, hreads⟩ := identifyAll_readable fun item hi => by
        obtain ⟨args, hargs, hread⟩ := hitems item hi
        exact ⟨args, (Listing.identify_flat hn item).symm.trans hargs, hread⟩
      obtain ⟨m, hm⟩ := ends_first hfetch
        (by simpa only [Listing.afterFirst, hn, hall] using Ends.done (.ok all))
      exact ⟨m, _, hm, hreads⟩

theorem Regular.terminates (h : source.Regular project t) : source.Terminates project t := by
  obtain ⟨n, outcome, hends, _⟩ := h.ends
  exact ⟨n, outcome, hends⟩

end Outcomes

end Source

end CloudInventory
