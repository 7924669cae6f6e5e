import CloudInventory.Proofs.Dict
import CloudInventory.Proofs.Listing.Standing

/-! Nested listings in their order. After the pages of the parents come those below each parent in
turn, and the first problem on this way, be it a call that fails, a parent without its name or an
item without its fields, is the last that the listing hears. -/

namespace CloudInventory

/-- The fault of an item that lacks a field. -/
def missing (type field : String) : Error :=
  .listing type s!"listed item has no string field '{field}'"

def text? (item : Json) (field : String) : Option String := (item.field? field).bind Json.string?

theorem itemField_of_some {item : Json} {field s : String} (h : text? item field = some s)
    (type : String) : itemField item field type = .ok s := by
  rw [text?] at h
  rw [itemField, h]

theorem itemField_of_none {item : Json} {field : String} (h : text? item field = none)
    (type : String) : itemField item field type = .error (missing type field) := by
  rw [text?] at h
  rw [itemField, h]
  rfl

namespace Definition

/-- The fields that a listed item needs. -/
def itemFields (d : Definition) : List String := d.idField :: d.attributes.map (·.2)

/-- The first needed field that an item does not have as a string. -/
def lack? (d : Definition) (item : Json) : Option String :=
  d.itemFields.find? fun field => (text? item field).isNone

theorem itemAttributes_cases (type : String) (item : Json) (attributes : Dict String) :
    match (attributes.map (·.2)).find? fun field => (text? item field).isNone with
    | none => ∃ found, itemAttributes type item attributes = .ok found
    | some field => itemAttributes type item attributes = .error (missing type field) := by
  induction attributes with
  | nil => exact ⟨[], rfl⟩
  | cons entry rest ih =>
    obtain ⟨attr, field⟩ := entry
    rw [List.map_cons]
    cases hfield : text? item field with
    | none =>
      rw [List.find?_cons_of_pos (by simp [hfield])]
      simp only [itemAttributes, itemField_of_none hfield]
      rfl
    | some value =>
      rw [List.find?_cons_of_neg (by simp [hfield])]
      simp only [itemAttributes, itemField_of_some hfield]
      split at ih
      · obtain ⟨found, hfound⟩ := ih
        exact ⟨_, by rw [hfound]; rfl⟩
      · rw [ih]
        rfl

theorem readArgs_cases (d : Definition) (type : String) (item : Json) :
    match d.lack? item with
    | none => ∃ args, d.readArgs type item = .ok args
    | some field => d.readArgs type item = .error (missing type field) := by
  have hattributes := itemAttributes_cases type item d.attributes
  rw [lack?, itemFields]
  cases hfield : text? item d.idField with
  | none =>
    rw [List.find?_cons_of_pos (by simp [hfield])]
    simp only [readArgs, itemField_of_none hfield]
    rfl
  | some value =>
    rw [List.find?_cons_of_neg (by simp [hfield])]
    simp only [readArgs, itemField_of_some hfield]
    split at hattributes
    · obtain ⟨found, hfound⟩ := hattributes
      exact ⟨_, by rw [hfound]; rfl⟩
    · rw [hattributes]
      rfl

end Definition

namespace Listing

theorem childId_of_lack {t : ResourceType} {item : Json} (h : t.definition.lack? item = none)
    (parent id : String) : ∃ id', childId t parent item id = .ok id' := by
  cases t with
  | dnsRecordSet =>
    have hfields := List.find?_eq_none.mp h
    have htext : ∀ field ∈ ["name", "type"], ∃ s, text? item field = some s := by
      intro field hfield
      have hsome := hfields field (List.mem_cons_of_mem "name" hfield)
      exact Option.ne_none_iff_exists'.mp (by simpa using hsome)
    obtain ⟨name, hname⟩ := htext "name" (by simp)
    obtain ⟨type, htype⟩ := htext "type" (by simp)
    simp only [childId, itemField_of_some hname, itemField_of_some htype]
    exact ⟨_, rfl⟩
  | _ => exact ⟨_, rfl⟩

theorem childArgs_cases (t : ResourceType) (n : Nesting) (parent : String) (item : Json) :
    match t.definition.lack? item with
    | none => ∃ args, childArgs t n parent item = .ok args
    | some field => childArgs t n parent item = .error (missing t.name field) := by
  have hargs := t.definition.readArgs_cases t.name item
  cases hlack : t.definition.lack? item with
  | none =>
    rw [hlack] at hargs
    obtain ⟨args, hargs⟩ := hargs
    obtain ⟨id, hid⟩ := childId_of_lack hlack parent args.id
    refine ⟨{ args with id, attributes := Dict.insert n.parentKey parent args.attributes }, ?_⟩
    simp only [childArgs, hargs, bind, Except.bind, hid]
    rfl
  | some field =>
    rw [hlack] at hargs
    simp only [childArgs, hargs]
    rfl

/-- The calls of one listing up to its end, which is all its items or a failure. -/
inductive Chain (d : Definition) (request : ListRequest) :
    List Exchange → Except Error (List Json) → Prop
  | complete {ex items} : Complete d request ex items → Chain d request ex (.ok items)
  | failed {cursor ex items} (e : Error) : Walked d request cursor ex items →
      Chain d request (ex ++ [((request, cursor), .error e)]) (.error e)
  | broken {cursor ex items page} : Walked d request cursor ex items → d.paged = true →
      page.last = false → page.next = none →
      Chain d request (ex ++ [((request, cursor), .ok page)])
        (.error (Walk.brokenPaging (ex.length + 1)))

/-- The parents that have been passed, those to come, and what was found below the first. -/
inductive Passed (t : ResourceType) (n : Nesting) (project : String) :
    List Exchange → List Json → List Json → List ReadArgs → Prop
  | parents {ex parents} : Complete n.parent.definition (firstRequest t project) ex parents →
      Passed t n project ex [] parents []
  | next {ex ex' before parent rest args name items more} :
      Passed t n project ex before (parent :: rest) args →
      text? parent n.parentField = some name →
      Complete t.definition (childRequest t n project name) ex' items →
      items.Forall₂ (childArgs t n name · = .ok ·) more →
      Passed t n project (ex ++ ex') (before ++ [parent]) rest (args ++ more)

/-- The call that comes next. -/
inductive Asks (t : ResourceType) (n : Nesting) (project : String) :
    List Exchange → ListRequest × Option String → Prop
  | parents {ex cursor items} :
      Walked n.parent.definition (firstRequest t project) cursor ex items →
      Asks t n project ex (firstRequest t project, cursor)
  | children {ex ex' before parent rest args name cursor items} :
      Passed t n project ex before (parent :: rest) args →
      text? parent n.parentField = some name →
      Walked t.definition (childRequest t n project name) cursor ex' items →
      Asks t n project (ex ++ ex') (childRequest t n project name, cursor)

/-- The first problem, and the type that its refusal is laid to where that is another. -/
inductive Stops (t : ResourceType) (n : Nesting) (project : String) :
    List Exchange → ListingFailure → Prop
  | parents {ex e} : Chain n.parent.definition (firstRequest t project) ex (.error e) →
      Stops t n project ex ⟨e, t.definition.requires⟩
  | nameless {ex before parent rest args} : Passed t n project ex before (parent :: rest) args →
      text? parent n.parentField = none →
      Stops t n project ex ⟨missing n.parent.name n.parentField, none⟩
  | children {ex ex' before parent rest args name e} :
      Passed t n project ex before (parent :: rest) args →
      text? parent n.parentField = some name →
      Chain t.definition (childRequest t n project name) ex' (.error e) →
      Stops t n project (ex ++ ex') ⟨e, none⟩
  | faulty {ex ex' before parent rest args name earlier item later field} :
      Passed t n project ex before (parent :: rest) args →
      text? parent n.parentField = some name →
      Complete t.definition (childRequest t n project name) ex' (earlier ++ item :: later) →
      (∀ x ∈ earlier, t.definition.lack? x = none) → t.definition.lack? item = some field →
      Stops t n project (ex ++ ex') ⟨missing t.name field, none⟩

variable {t : ResourceType} {n : Nesting} {project : String} {d : Definition}
  {request : ListRequest} {cursor : Option String} {ex ex' : List Exchange} {l : Listing}
  {call : ListRequest × Option String} {items before rest : List Json} {args : List ReadArgs}

section Turns

theorem Walked.nil_of_unpaged (h : Walked d request cursor ex items) (hd : d.paged = false) :
    cursor = none ∧ ex = [] ∧ items = [] := by
  cases h with
  | start => exact ⟨rfl, rfl, rfl⟩
  | next _ hpaged => simp [hd] at hpaged

/-- Every answer continues the calls of a listing or ends them. -/
theorem Walked.answer (h : Walked d request cursor ex items) (answer : Except Error (Page Json)) :
    (∃ next more, Walked d request next (ex ++ [((request, cursor), answer)]) more) ∨
      ∃ outcome, Chain d request (ex ++ [((request, cursor), answer)]) outcome := by
  cases answer with
  | error e => exact .inr ⟨_, .failed e h⟩
  | ok page =>
    by_cases hd : d.paged = true
    · cases hlast : page.last with
      | true => exact .inr ⟨_, .complete (.last h fun _ => hlast)⟩
      | false =>
        cases hnext : page.next with
        | none => exact .inr ⟨_, .broken h hd hlast hnext⟩
        | some next => exact .inl ⟨_, _, .next h hd hlast hnext⟩
    · exact .inr ⟨_, .complete (.last h fun hpaged => absurd hpaged hd)⟩

theorem Chain.of_ok (h : Chain d request ex (.ok items)) : Complete d request ex items := by
  cases h with
  | complete hcomplete => exact hcomplete

theorem turn_last {page : Page Json} (h : Walked d request cursor ex items)
    (hlast : d.paged = true → page.last = true) (pages : Nat) :
    turn d (.ok page) (.asking cursor items pages) = .stopped (.ok (items ++ page.items)) := by
  by_cases hd : d.paged = true
  · simp [turn, hd, Walk.feed, hlast hd]
  · have hunpaged := Bool.eq_false_iff.mpr hd
    obtain ⟨_, _, rfl⟩ := h.nil_of_unpaged hunpaged
    simp [turn, hunpaged, Walk.single, Except.map]

end Turns

section Stages

/-- A walk within a listing: where the listing stands during the walk and after it. -/
structure Stage (t : ResourceType) (project : String) (d : Definition) (request : ListRequest)
    (during after : Walk Json → Listing) : Prop where
  asks : ∀ cursor items pages,
    (during (.asking cursor items pages)).request? t project = some (request, cursor)
  feeds : ∀ answer cursor items pages, (during (.asking cursor items pages)).feed t answer =
    after (turn d answer (.asking cursor items pages))
  goes : ∀ cursor items pages,
    after (.asking cursor items pages) = during (.asking cursor items pages)

variable {during after : Walk Json → Listing}

theorem Stage.walked (hs : Stage t project d request during after)
    (h : Heard t project ex (during Walk.start)) (hwalk : Walked d request cursor ex' items) :
    Heard t project (ex ++ ex') (during (.asking cursor items ex'.length)) := by
  induction hwalk with
  | start =>
    rw [List.append_nil]
    exact h
  | @next cursor ex' items page next _ hpaged hlast hnext ih =>
    have hheard := Heard.next (.ok page) ih (hs.asks _ _ _)
    have hturn : turn d (.ok page) (.asking cursor items ex'.length) =
        .asking (some next) (items ++ page.items) (ex'.length + 1) := by
      simp [turn, hpaged, Walk.feed, hlast, hnext]
    rw [hs.feeds, hturn, hs.goes] at hheard
    simpa using hheard

theorem Stage.chain (hs : Stage t project d request during after)
    (h : Heard t project ex (during Walk.start)) {outcome : Except Error (List Json)}
    (hchain : Chain d request ex' outcome) :
    Heard t project (ex ++ ex') (after (.stopped outcome)) := by
  cases hchain with
  | complete hcomplete =>
    obtain @⟨_, _, _, page, hwalk, hlast⟩ := hcomplete
    have hheard := Heard.next (.ok page) (hs.walked h hwalk) (hs.asks _ _ _)
    rw [hs.feeds, turn_last hwalk hlast, List.append_assoc] at hheard
    exact hheard
  | failed e hwalk =>
    have hheard := Heard.next (.error e) (hs.walked h hwalk) (hs.asks _ _ _)
    rw [hs.feeds, turn_error, List.append_assoc] at hheard
    exact hheard
  | @broken cursor ex' items page hwalk hpaged hlast hnext =>
    have hheard := Heard.next (.ok page) (hs.walked h hwalk) (hs.asks _ _ _)
    have hturn : turn d (.ok page) (.asking cursor items ex'.length) =
        .stopped (.error (Walk.brokenPaging (ex'.length + 1))) := by
      simp [turn, hpaged, Walk.feed, hlast, hnext]
    rw [hs.feeds, hturn, List.append_assoc] at hheard
    exact hheard

theorem stage_first (hn : t.nesting? = some n) (project : String) :
    Stage t project n.parent.definition (firstRequest t project) .first (afterFirst t) where
  asks _ _ _ := rfl
  feeds answer cursor items pages := by simp [feed, firstDefinition, hn]
  goes _ _ _ := rfl

theorem stage_below (hn : t.nesting? = some n) (project name : String) (others : List Json)
    (found : List ReadArgs) :
    Stage t project t.definition (childRequest t n project name)
      (fun walk => .below name others walk found) (afterBelow t n name others found) where
  asks _ _ _ := by simp [request?, hn, childRequest]
  feeds _ _ _ _ := by simp [feed, hn]
  goes _ _ _ := rfl

end Stages

section Identified

theorem identifyAll_of_ok {f : Json → Except Error ReadArgs}
    (h : items.Forall₂ (f · = .ok ·) args) : identifyAll f items = .ok args := by
  induction h with
  | nil => rfl
  | cons hitem _ ih =>
    simp only [identifyAll, hitem, ih]
    rfl

theorem identifyAll_of_error {f : Json → Except Error ReadArgs} {item : Json} {e : Error}
    (hbefore : ∀ x ∈ before, ∃ args, f x = .ok args) (hitem : f item = .error e) :
    identifyAll f (before ++ item :: rest) = .error e := by
  induction before with
  | nil =>
    simp only [List.nil_append, identifyAll, hitem]
    rfl
  | cons x xs ih =>
    obtain ⟨args, hx⟩ := hbefore x List.mem_cons_self
    have hrest := ih fun y hy => hbefore y (List.mem_cons_of_mem _ hy)
    simp only [List.cons_append, identifyAll, hx, hrest]
    rfl

theorem childArgs_of_none {item : Json} (h : t.definition.lack? item = none) (n : Nesting)
    (name : String) : ∃ args, childArgs t n name item = .ok args := by
  simpa only [h] using childArgs_cases t n name item

theorem childArgs_of_some {item : Json} {field : String}
    (h : t.definition.lack? item = some field) (n : Nesting) (name : String) :
    childArgs t n name item = .error (missing t.name field) := by
  simpa only [h] using childArgs_cases t n name item

/-- Listed items are all identified, or one is the first that lacks a field. -/
theorem identified_or_faulty (t : ResourceType) (n : Nesting) (name : String)
    (items : List Json) :
    (∃ args, items.Forall₂ (childArgs t n name · = .ok ·) args) ∨
      ∃ before item rest field, items = before ++ item :: rest ∧
        (∀ x ∈ before, t.definition.lack? x = none) ∧ t.definition.lack? item = some field := by
  induction items with
  | nil => exact .inl ⟨[], .nil⟩
  | cons item items ih =>
    cases hlack : t.definition.lack? item with
    | some field => exact .inr ⟨[], item, items, field, rfl, by simp, hlack⟩
    | none =>
      rcases ih with ⟨args, hargs⟩ | ⟨before, x, rest, field, rfl, hbefore, hx⟩
      · obtain ⟨a, ha⟩ := childArgs_of_none hlack n name
        exact .inl ⟨a :: args, .cons ha hargs⟩
      · exact .inr ⟨item :: before, x, rest, field, rfl,
          List.forall_mem_cons.mpr ⟨hlack, hbefore⟩, hx⟩

end Identified

section Order

theorem nextParent_of_some {parent : Json} {name : String}
    (hname : text? parent n.parentField = some name) :
    nextParent n args (parent :: rest) = .below name rest Walk.start args := by
  simp only [nextParent, itemField_of_some hname]

theorem Passed.heard (hn : t.nesting? = some n) (h : Passed t n project ex before rest args) :
    Heard t project ex (nextParent n args rest) := by
  induction h with
  | parents hcomplete =>
    have hheard := (stage_first hn project).chain .start (.complete hcomplete)
    simpa only [List.nil_append, afterFirst, hn] using hheard
  | @next ex ex' before parent rest args name items more _ hname hcomplete hmore ih =>
    rw [nextParent_of_some hname] at ih
    have hheard := (stage_below hn project name rest args).chain ih (.complete hcomplete)
    simpa only [afterBelow, identifyAll_of_ok hmore] using hheard

theorem Asks.heard (hn : t.nesting? = some n) (h : Asks t n project ex call) :
    ∃ l, Heard t project ex l ∧ l.request? t project = some call := by
  cases h with
  | parents hwalk =>
    have hstage := stage_first hn project
    exact ⟨_, hstage.walked .start hwalk, hstage.asks _ _ _⟩
  | @children _ _ _ parent rest args name _ _ hpassed hname hwalk =>
    have hstage := stage_below hn project name rest args
    have hheard := hpassed.heard hn
    rw [nextParent_of_some hname] at hheard
    exact ⟨_, hstage.walked hheard hwalk, hstage.asks _ _ _⟩

theorem Stops.heard (hn : t.nesting? = some n) {f : ListingFailure}
    (h : Stops t n project ex f) : Heard t project ex (.done (.error f)) := by
  cases h with
  | parents hchain =>
    have hheard := (stage_first hn project).chain .start hchain
    simpa only [List.nil_append, afterFirst, failed] using hheard
  | nameless hpassed hname =>
    have hheard := hpassed.heard hn
    simpa only [nextParent, itemField_of_none hname, failed] using hheard
  | @children _ _ _ _ rest args name _ hpassed hname hchain =>
    have hheard := hpassed.heard hn
    rw [nextParent_of_some hname] at hheard
    exact (stage_below hn project name rest args).chain hheard hchain
  | @faulty _ _ _ _ rest args name earlier item later _ hpassed hname hcomplete hearlier hitem =>
    have hheard := hpassed.heard hn
    rw [nextParent_of_some hname] at hheard
    have hfault : identifyAll (childArgs t n name) (earlier ++ item :: later) =
        .error (missing t.name _) :=
      identifyAll_of_error (fun x hx => childArgs_of_none (hearlier x hx) n name)
        (childArgs_of_some hitem n name)
    have hdone := (stage_below hn project name rest args).chain hheard (.complete hcomplete)
    simpa only [afterBelow, hfault, failed] using hdone

theorem parentKey_of_childArgs {name : String} {item : Json} {found : ReadArgs}
    (h : childArgs t n name item = .ok found) :
    Dict.find? n.parentKey found.attributes = some name := by
  obtain ⟨args, _, h⟩ := bind_ok h
  obtain ⟨id, _, h⟩ := bind_ok h
  obtain rfl := Except.ok.inj h
  exact Dict.find?_insert_self n.parentKey name args.attributes

/-- What is found is the concatenation of what is found below the parents in their order. -/
theorem Passed.grouped (h : Passed t n project ex before rest args) :
    ∃ groups : List (List ReadArgs), args = groups.flatten ∧
      before.Forall₂ (fun parent group => ∃ name, text? parent n.parentField = some name ∧
        ∀ a ∈ group, Dict.find? n.parentKey a.attributes = some name) groups := by
  induction h with
  | parents => exact ⟨[], rfl, .nil⟩
  | @next _ _ _ parent _ _ name items more _ hname _ hmore ih =>
    obtain ⟨groups, rfl, hgroups⟩ := ih
    have hkeys : ∀ a ∈ more, Dict.find? n.parentKey a.attributes = some name := by
      intro a ha
      obtain ⟨item, _, hitem⟩ := exists_of_forall₂ hmore ha
      exact parentKey_of_childArgs hitem
    exact ⟨groups ++ [more], by simp, List.rel_append hgroups (.cons ⟨name, hname, hkeys⟩ .nil)⟩

/-- A listing has one more call to make, has stopped, or has passed all parents. -/
def Comes (t : ResourceType) (n : Nesting) (project : String) (ex : List Exchange) : Prop :=
  (∃ call, Asks t n project ex call) ∨ (∃ f, Stops t n project ex f) ∨
    ∃ parents args, Passed t n project ex parents [] args

theorem Passed.comes (h : Passed t n project ex before rest args) : Comes t n project ex := by
  cases rest with
  | nil => exact .inr (.inr ⟨_, _, h⟩)
  | cons parent rest =>
    cases hname : text? parent n.parentField with
    | none => exact .inr (.inl ⟨_, .nameless h hname⟩)
    | some name =>
      have hasks := Asks.children h hname .start
      rw [List.append_nil] at hasks
      exact .inl ⟨_, hasks⟩

theorem Asks.comes (h : Asks t n project ex call) (answer : Except Error (Page Json)) :
    Comes t n project (ex ++ [(call, answer)]) := by
  cases h with
  | parents hwalk =>
    rcases hwalk.answer answer with ⟨_, _, hwalk⟩ | ⟨outcome, hchain⟩
    · exact .inl ⟨_, .parents hwalk⟩
    · cases outcome with
      | error e => exact .inr (.inl ⟨_, .parents hchain⟩)
      | ok parents => exact (Passed.parents hchain.of_ok).comes
  | @children _ _ _ _ _ _ name _ _ hpassed hname hwalk =>
    rw [List.append_assoc]
    rcases hwalk.answer answer with ⟨_, _, hwalk⟩ | ⟨outcome, hchain⟩
    · exact .inl ⟨_, .children hpassed hname hwalk⟩
    · cases outcome with
      | error e => exact .inr (.inl ⟨_, .children hpassed hname hchain⟩)
      | ok items =>
        rcases identified_or_faulty t n name items with
          ⟨more, hmore⟩ | ⟨_, _, _, _, rfl, hbefore, hitem⟩
        · exact (hpassed.next hname hchain.of_ok hmore).comes
        · exact .inr (.inl ⟨_, .faulty hpassed hname hchain.of_ok hbefore hitem⟩)

theorem Heard.comes (hn : t.nesting? = some n) (h : Heard t project ex l) :
    Comes t n project ex := by
  induction h with
  | start => exact .inl ⟨_, .parents .start⟩
  | @next ex l call answer hheard hcall ih =>
    rcases ih with ⟨call', hasks⟩ | ⟨f, hstops⟩ | ⟨parents, args, hpassed⟩
    · obtain ⟨l', hl', hcall'⟩ := hasks.heard hn
      rw [hheard.unique hl', hcall', Option.some.injEq] at hcall
      exact hcall ▸ hasks.comes answer
    · rw [hheard.unique (hstops.heard hn)] at hcall
      cases hcall
    · rw [hheard.unique (hpassed.heard hn)] at hcall
      cases hcall

/-- Whatever a listing has heard but the last answer, it went on from there. -/
theorem Heard.asks_within (h : Heard t project ex l) {earlier later : List Exchange}
    (hex : ex = earlier ++ later) (hlater : later ≠ []) :
    ∃ l' call, Heard t project earlier l' ∧ l'.request? t project = some call := by
  obtain ⟨init, last, rfl⟩ := (List.eq_nil_or_concat later).resolve_left hlater
  induction h generalizing init last with
  | start => simp at hex
  | @next ex l call answer hheard hcall ih =>
    rw [List.concat_eq_append, ← List.append_assoc] at hex
    obtain ⟨rfl, _⟩ := snoc_inj hex
    rcases List.eq_nil_or_concat init with rfl | ⟨init', last', rfl⟩
    · exact ⟨l, call, List.append_nil earlier ▸ hheard, hcall⟩
    · exact ih init' last' rfl (by simp)

/-- No call follows the one at which a listing stops. -/
theorem Stops.last (hn : t.nesting? = some n) {earlier later : List Exchange}
    {f : ListingFailure} (hstops : Stops t n project earlier f)
    (h : Heard t project (earlier ++ later) l) : later = [] := by
  by_contra hlater
  obtain ⟨l', call, hheard, hcall⟩ := h.asks_within rfl hlater
  rw [hheard.unique (hstops.heard hn)] at hcall
  cases hcall

end Order

end Listing

end CloudInventory
