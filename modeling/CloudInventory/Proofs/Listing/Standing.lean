import CloudInventory.Proofs.Listing.Exchanges

/-! Where a listing stands after its exchanges. Each answer continues the walk at hand, ends it
with all items of its pages, or ends the listing. -/

namespace CloudInventory.Listing

variable {t : ResourceType} {n : Nesting} {project : String} {ex ex' : List Exchange} {l : Listing}
  {call : ListRequest × Option String} {answer : Except Error (Page Json)}

theorem turn_error (d : Definition) (e : Error) (cursor : Option String) (items : List Json)
    (pages : Nat) : turn d (.error e) (.asking cursor items pages) = .stopped (.error e) := by
  cases hd : d.paged <;> simp [turn, hd, Walk.feed, Walk.single, Except.map]

theorem turn_cases {d : Definition} {request : ListRequest} {cursor : Option String}
    {items : List Json} (h : Walked d request cursor ex items) (pages : Nat)
    (answer : Except Error (Page Json)) :
    (∃ e, answer = .error e ∧ turn d answer (.asking cursor items pages) = .stopped (.error e)) ∨
    ∃ page, answer = .ok page ∧
      ((∃ e, turn d answer (.asking cursor items pages) = .stopped (.error e) ∧
          e.isForbidden = false) ∨
        (∃ all, turn d answer (.asking cursor items pages) = .stopped (.ok all) ∧
          Complete d request (ex ++ [((request, cursor), answer)]) all) ∨
        ∃ next gathered count,
          turn d answer (.asking cursor items pages) = .asking next gathered count ∧
            Walked d request next (ex ++ [((request, cursor), answer)]) gathered) := by
  cases answer with
  | error e =>
    exact .inl ⟨e, rfl, turn_error d e cursor items pages⟩
  | ok page =>
    refine .inr ⟨page, rfl, ?_⟩
    cases hp : d.paged with
    | false =>
      -- without pages the walk is at its start, so the answer is all there is
      have hnil : items = [] := by
        cases h with
        | start => rfl
        | next _ hpaged => simp [hp] at hpaged
      exact .inr (.inl ⟨items ++ page.items, by simp [turn, hp, Walk.single, Except.map, hnil],
        .last h (by simp [hp])⟩)
    | true =>
      cases hlast : page.last with
      | true =>
        exact .inr (.inl ⟨items ++ page.items, by simp [turn, hp, Walk.feed, hlast],
          .last h fun _ => hlast⟩)
      | false =>
        cases hnext : page.next with
        | none =>
          exact .inl ⟨Walk.brokenPaging (pages + 1),
            by simp [turn, hp, Walk.feed, hlast, hnext], rfl⟩
        | some next =>
          exact .inr (.inr ⟨some next, items ++ page.items, pages + 1,
            by simp [turn, hp, Walk.feed, hlast, hnext], .next h hp hlast hnext⟩)

theorem identify_nested (hn : t.nesting? = some n) (name : String) (item : Json) :
    identify t (some name, item) = childArgs t n name item := by simp [identify, hn]

theorem identify_flat (hn : t.nesting? = none) (item : Json) :
    identify t (none, item) = t.definition.readArgs t.name item := by simp [identify, hn]

namespace Stands

theorem start : Stands t project [] Listing.start := .first .start

theorem nextParent {before rest : List Json} {listed : List (Option String × Json)}
    {found : List ReadArgs} (hn : t.nesting? = some n)
    (hparents : Complete n.parent.definition (firstRequest t project) ex (before ++ rest))
    (hbelow : Below t n project before ex' listed)
    (hfound : listed.Forall₂ (identify t · = .ok ·) found)
    (hfaulty : ∀ e, e.isForbidden = false → Stands t project (ex ++ ex') (Listing.failed e none)) :
    Stands t project (ex ++ ex') (Listing.nextParent n found rest) := by
  cases rest with
  | nil =>
    rw [List.append_nil] at hparents
    exact .done (.nested hn hparents hbelow) hfound
  | cons parent others =>
    cases hname : itemField parent n.parentField n.parent.name with
    | error e =>
      simpa only [Listing.nextParent, hname] using hfaulty e (itemField_error hname)
    | ok name =>
      have hchild : Stands t project (ex ++ ex' ++ []) (.below name others Walk.start found) :=
        .child hn hparents hname hbelow hfound .start
      simpa [Listing.nextParent, hname] using hchild

theorem afterFirst {all : List Json} {page : Page Json}
    (hall : Complete (firstDefinition t) (firstRequest t project) (ex ++ [(call, .ok page)]) all) :
    Stands t project (ex ++ [(call, .ok page)]) (Listing.afterFirst t (.stopped (.ok all))) := by
  simp only [Listing.afterFirst]
  cases hn : t.nesting? with
  | some n =>
    have hd : firstDefinition t = n.parent.definition := by simp [firstDefinition, hn]
    rw [hd] at hall
    have hnone : Complete n.parent.definition (firstRequest t project) _ ([] ++ all) := hall
    simpa using nextParent hn hnone .start .nil fun e he => by
      simpa using Stands.faulty page none he
  | none =>
    have hd : firstDefinition t = t.definition := by simp [firstDefinition, hn]
    rw [hd] at hall
    cases hargs : identifyAll (t.definition.readArgs t.name) all with
    | error e => exact .faulty page none (identifyAll_error (fun _ _ => readArgs_error) hargs)
    | ok args =>
      refine .done (.flat hn hall) (List.forall₂_map_left_iff.mpr ?_)
      simpa only [identify_flat hn] using identifyAll_ok hargs

theorem afterBelow {before others all : List Json} {parent : Json} {name : String}
    {ex'' : List Exchange} {listed : List (Option String × Json)} {found : List ReadArgs}
    {page : Page Json} (hn : t.nesting? = some n)
    (hparents : Complete n.parent.definition (firstRequest t project) ex
      (before ++ parent :: others))
    (hname : itemField parent n.parentField n.parent.name = .ok name)
    (hbelow : Below t n project before ex' listed)
    (hfound : listed.Forall₂ (identify t · = .ok ·) found)
    (hall : Complete t.definition (childRequest t n project name)
      (ex'' ++ [(call, .ok page)]) all) :
    Stands t project (ex ++ ex' ++ ex'' ++ [(call, .ok page)])
      (Listing.afterBelow t n name others found (.stopped (.ok all))) := by
  simp only [Listing.afterBelow]
  cases hargs : identifyAll (childArgs t n name) all with
  | error e => exact .faulty page none (identifyAll_error (fun _ _ => childArgs_error) hargs)
  | ok args =>
    have hmap : (all.map (some name, ·)).Forall₂ (identify t · = .ok ·) args := by
      refine List.forall₂_map_left_iff.mpr ?_
      simpa only [identify_nested hn] using identifyAll_ok hargs
    rw [List.append_cons] at hparents
    have hnext := nextParent hn hparents (hbelow.next hname hall) (List.rel_append hfound hmap)
      fun e he => by
        have hlast : Stands t project (ex ++ ex' ++ ex'' ++ [(call, .ok page)])
            (Listing.failed e none) := .faulty page none he
        simpa using hlast
    simpa using hnext

theorem feed (h : Stands t project ex l) (hcall : l.request? t project = some call)
    (answer : Except Error (Page Json)) :
    Stands t project (ex ++ [(call, answer)]) (l.feed t answer) := by
  cases h with
  | @first cursor _ items pages hwalk =>
    obtain rfl : (firstRequest t project, cursor) = call := Option.some.inj hcall
    rcases turn_cases hwalk pages answer with
      ⟨e, rfl, hturn⟩ | ⟨page, rfl, ⟨e, hturn, he⟩ | ⟨all, hturn, hall⟩ | ⟨_, _, _, hturn, hwalk⟩⟩
    all_goals simp only [Listing.feed, hturn]
    · exact .failed _
    · exact .faulty page _ he
    · exact .afterFirst hall
    · exact .first hwalk
  | @child n _ _ _ _ _ _ name _ cursor _ pages _ hn hparents hname hbelow hfound hwalk =>
    have hreq : some (childRequest t n project name, cursor) = some call := by
      simpa only [request?, hn, childRequest] using hcall
    obtain rfl := Option.some.inj hreq
    rcases turn_cases hwalk pages answer with
      ⟨e, rfl, hturn⟩ | ⟨page, rfl, ⟨e, hturn, he⟩ | ⟨all, hturn, hall⟩ | ⟨_, _, _, hturn, hwalk⟩⟩
    all_goals simp only [Listing.feed, hn, hturn]
    · exact .failed _
    · exact .faulty page _ he
    · exact .afterBelow hn hparents hname hbelow hfound hall
    · rw [List.append_assoc]
      exact .child hn hparents hname hbelow hfound hwalk
  | done | failed | faulty => cases hcall

end Stands

theorem Heard.stands (h : Heard t project ex l) : Stands t project ex l := by
  induction h with
  | start => exact .start
  | next answer _ hcall ih => exact ih.feed hcall answer

section Answers

theorem answer_ok_snoc (hex : ∀ x ∈ ex, ∃ page, x.2 = .ok page) {page : Page Json} :
    ∀ x ∈ ex ++ [(call, .ok page)], ∃ page, x.2 = .ok page := by
  intro x hx
  simp only [List.mem_append, List.mem_singleton] at hx
  rcases hx with hx | rfl
  · exact hex x hx
  · exact ⟨page, rfl⟩

theorem answer_ok_append (hex : ∀ x ∈ ex, ∃ page, x.2 = .ok page)
    (hex' : ∀ x ∈ ex', ∃ page, x.2 = .ok page) : ∀ x ∈ ex ++ ex', ∃ page, x.2 = .ok page :=
  fun x hx => (List.mem_append.mp hx).elim (hex x) (hex' x)

theorem Walked.answers_ok {d : Definition} {request : ListRequest} {cursor : Option String}
    {items : List Json} (h : Walked d request cursor ex items) :
    ∀ x ∈ ex, ∃ page, x.2 = .ok page := by
  induction h with
  | start => simp
  | next _ _ _ _ ih => exact answer_ok_snoc ih

theorem Complete.answers_ok {d : Definition} {request : ListRequest} {items : List Json}
    (h : Complete d request ex items) : ∀ x ∈ ex, ∃ page, x.2 = .ok page := by
  obtain ⟨hwalk, _⟩ := h
  exact answer_ok_snoc hwalk.answers_ok

theorem Below.answers_ok {parents : List Json} {listed : List (Option String × Json)}
    (h : Below t n project parents ex listed) : ∀ x ∈ ex, ∃ page, x.2 = .ok page := by
  induction h with
  | start => simp
  | next _ _ hcomplete ih => exact answer_ok_append ih hcomplete.answers_ok

theorem Lists.answers_ok {listed : List (Option String × Json)} (h : Lists t project ex listed) :
    ∀ x ∈ ex, ∃ page, x.2 = .ok page := by
  cases h with
  | flat _ hcomplete => exact hcomplete.answers_ok
  | nested _ hparents hbelow => exact answer_ok_append hparents.answers_ok hbelow.answers_ok

end Answers

namespace Stands

theorem answers_ok (h : Stands t project ex l) (hl : ∀ f, l ≠ .done (.error f)) :
    ∀ x ∈ ex, ∃ page, x.2 = .ok page := by
  cases h with
  | first hwalk => exact hwalk.answers_ok
  | child _ hparents _ hbelow _ hwalk =>
    exact answer_ok_append (answer_ok_append hparents.answers_ok hbelow.answers_ok) hwalk.answers_ok
  | done hlists => exact hlists.answers_ok
  | failed | faulty => exact absurd rfl (hl _)

theorem asks_or_done (h : Stands t project ex l) :
    (∃ call, l.request? t project = some call) ∨ ∃ outcome, l = .done outcome := by
  cases h with
  | first => exact .inl ⟨_, rfl⟩
  | child hn =>
    simp only [request?, hn]
    exact .inl ⟨_, rfl⟩
  | done => exact .inr ⟨_, rfl⟩
  | failed | faulty => exact .inr ⟨_, rfl⟩

theorem done_ok {args : List ReadArgs} (h : Stands t project ex (.done (.ok args))) :
    ∃ listed, Lists t project ex listed ∧ listed.Forall₂ (identify t · = .ok ·) args := by
  cases h with
  | done hlists hargs => exact ⟨_, hlists, hargs⟩

end Stands

section Refusals

theorem feed_error (hcall : l.request? t project = some call) (e : Error) :
    l.feed t (.error e) = failed e (l.blamed t) := by
  cases l with
  | first walk =>
    cases walk with
    | asking => simp [feed, turn_error, afterFirst, blamed]
    | stopped => cases hcall
  | below parent others walk found =>
    cases walk with
    | asking =>
      cases hn : t.nesting? with
      | none => simp [request?, hn] at hcall
      | some n => simp [feed, hn, turn_error, afterBelow, blamed]
    | stopped => cases hcall
  | done => cases hcall

theorem snoc_inj {x y : Exchange} (h : ex ++ [x] = ex' ++ [y]) : ex = ex' ∧ x = y := by
  obtain ⟨hex, hxy⟩ := List.append_inj' h rfl
  exact ⟨hex, List.singleton_inj.mp hxy⟩

theorem Heard.unique {l' : Listing} (h : Heard t project ex l) (h' : Heard t project ex l') :
    l = l' := by
  induction h generalizing l' with
  | start =>
    generalize hex : ([] : List Exchange) = ex at h'
    cases h' with
    | start => rfl
    | next => simp at hex
  | @next ex l call answer _ _ ih =>
    generalize hex : ex ++ [(call, answer)] = ex' at h'
    cases h' with
    | start => simp at hex
    | next answer' hl' =>
      obtain ⟨rfl, hx⟩ := snoc_inj hex
      obtain ⟨_, rfl⟩ := Prod.mk.inj hx
      rw [ih hl']

theorem Refused.unique {f g : ListingFailure} (hf : Refused t project ex f)
    (hg : Refused t project ex g) : f = g := by
  obtain ⟨_, l, _, hl, _, rfl, _, hlisted⟩ := hf
  obtain ⟨_, l', _, hl', _, hex, _, hlisted'⟩ := hg
  obtain ⟨rfl, hx⟩ := snoc_inj hex
  obtain ⟨_, herror⟩ := Prod.mk.inj hx
  obtain rfl := hl.unique hl'
  cases f
  cases g
  simp_all

/-- A listing fails with a refused call, or with what no refusal is. -/
theorem Heard.done_error {f : ListingFailure} (h : Heard t project ex (.done (.error f))) :
    Refused t project ex f ∨ f.error.isForbidden = false ∧ ∀ g, ¬Refused t project ex g := by
  have hstands := h.stands
  generalize hl : Listing.done (.error f) = l' at h
  cases h with
  | start => cases hl
  | @next before l call answer hbefore hcall =>
    cases answer with
    | error e =>
      rw [feed_error hcall] at hl
      obtain rfl : f = ⟨e, l.blamed t⟩ := by simpa [failed] using hl
      cases hforb : e.isForbidden with
      | true => exact .inl ⟨before, l, call, hbefore, hcall, rfl, hforb, rfl⟩
      | false =>
        refine .inr ⟨rfl, fun g hg => ?_⟩
        obtain ⟨_, _, _, _, _, hex, hg, _⟩ := hg
        obtain ⟨_, herror⟩ := Prod.mk.inj (snoc_inj hex).2
        rw [← Except.error.inj herror, hforb] at hg
        cases hg
    | ok page =>
      have hne : ∀ g, ¬Refused t project (before ++ [(call, .ok page)]) g := by
        rintro g ⟨_, _, _, _, _, hex, _⟩
        cases (Prod.mk.inj (snoc_inj hex).2).2
      refine .inr ⟨?_, hne⟩
      generalize hex : before ++ [(call, Except.ok page)] = ex at hstands
      cases hstands with
      | failed => cases (Prod.mk.inj (snoc_inj hex).2).2
      | faulty _ _ he => exact he

theorem Heard.not_refused (h : Heard t project ex l) (hl : ∀ f, l ≠ .done (.error f))
    (g : ListingFailure) : ¬Refused t project ex g := by
  rintro ⟨_, _, _, _, _, rfl, _⟩
  obtain ⟨page, hpage⟩ := h.stands.answers_ok hl _ (List.mem_append_right _ List.mem_cons_self)
  cases hpage

theorem Refused.listed_cases {f : ListingFailure} (h : Refused t project ex f) :
    f.listed = t.definition.requires ∨ f.listed = none := by
  obtain ⟨_, l, _, _, _, _, _, hlisted⟩ := h
  cases l with
  | first => exact .inl hlisted
  | below | done => exact .inr hlisted

/-- A failed listing is laid at the door of the prerequisite if that was refused. -/
theorem Refused.listed_iff {f : ListingFailure} (h : Refused t project ex f)
    {prerequisite : String} (hp : t.definition.requires = some prerequisite) :
    f.listed = some prerequisite ↔ PrerequisiteRefused t project ex := by
  obtain ⟨before, l, call, hl, hcall, rfl, hforb, hlisted⟩ := h
  constructor
  · intro hf
    cases l with
    | first walk => exact ⟨before, walk, call, f.error, hl, hcall, rfl, hforb⟩
    | below | done => simp [blamed, hf] at hlisted
  · rintro ⟨_, walk, _, e, hwalk, _, hex, _⟩
    obtain ⟨rfl, _⟩ := snoc_inj hex
    obtain rfl := hl.unique hwalk
    rw [hlisted, blamed, hp]

end Refusals

end CloudInventory.Listing
