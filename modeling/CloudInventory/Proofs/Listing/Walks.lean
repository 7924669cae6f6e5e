import CloudInventory.Page

/-! Walks over any service, which may answer every request in its own way. A walk asks for the
first page without a cursor and for every other with the cursor of the page before; it has ended
after the first request that fails, or whose page is the last or names no successor. -/

namespace CloudInventory

namespace Walk

variable {α σ : Type}

/-- What answers the requests of a walk, and may remember them. -/
abbrev Fetch (σ α : Type) := Option String → StateM σ (Except Error (Page α))

/-- The cursor of a request, with its answer. -/
abbrev Call (α : Type) := Option String × Except Error (Page α)

/-- The same answers, with a record of all requests. -/
def recording (fetch : Fetch σ α) : Fetch (σ × List (Call α)) α := fun cursor (s, calls) =>
  let (answer, t) := fetch cursor s
  (answer, (t, calls ++ [(cursor, answer)]))

/-- The first `n` requests of a walk over a service in state `s`: how far it has come, the state
of the service, and the calls made. -/
def after (fetch : Fetch σ α) (s : σ) (n : Nat) : Walk α × (σ × List (Call α)) :=
  (run (recording fetch) n start).run (s, [])

/-- The calls after which a walk asks for one more page, and the pages that they gave. -/
inductive Asked (fetch : Fetch σ α) (s : σ) :
    List (Call α) → List (Page α) → Option String → σ → Prop
  | first : Asked fetch s [] [] none s
  | next {calls pages cursor t page successor t'} : Asked fetch s calls pages cursor t →
      fetch cursor t = (.ok page, t') → page.last = false → page.next = some successor →
      Asked fetch s (calls ++ [(cursor, .ok page)]) (pages ++ [page]) (some successor) t'

/-- The calls after which a walk asks for no more, and its outcome. -/
inductive Ended (fetch : Fetch σ α) (s : σ) :
    List (Call α) → Except Error (List α) → σ → Prop
  | failed {calls pages cursor t e t'} : Asked fetch s calls pages cursor t →
      fetch cursor t = (.error e, t') →
      Ended fetch s (calls ++ [(cursor, .error e)]) (.error e) t'
  | last {calls pages cursor t page t'} : Asked fetch s calls pages cursor t →
      fetch cursor t = (.ok page, t') → page.last = true →
      Ended fetch s (calls ++ [(cursor, .ok page)]) (.ok ((pages ++ [page]).flatMap Page.items)) t'
  | broken {calls pages cursor t page t'} : Asked fetch s calls pages cursor t →
      fetch cursor t = (.ok page, t') → page.last = false → page.next = none →
      Ended fetch s (calls ++ [(cursor, .ok page)]) (.error (brokenPaging (pages.length + 1))) t'

section Runs

variable {fetch : Fetch σ α} {s t : σ} {calls : List (Call α)} {pages : List (Page α)}
  {cursor : Option String} {outcome : Except Error (List α)} {n : Nat}

theorem run_stopped {m : Type → Type} [Monad m] (fetch : Option String → m (Except Error (Page α)))
    (n : Nat) (outcome : Except Error (List α)) :
    run fetch n (.stopped outcome) = pure (.stopped outcome) := by
  cases n <;> rfl

/-- A walk may pause after any number of requests. -/
theorem run_add {m : Type → Type} [Monad m] [LawfulMonad m]
    (fetch : Option String → m (Except Error (Page α))) (n k : Nat) (walk : Walk α) :
    run fetch (n + k) walk = run fetch n walk >>= run fetch k := by
  induction n generalizing walk with
  | zero => simp [run]
  | succ n ih =>
    cases walk with
    | stopped outcome => simp [run_stopped]
    | asking cursor gathered pages => simp [Nat.succ_add, run, ih]

theorem after_add (fetch : Fetch σ α) (s : σ) (n k : Nat) :
    after fetch s (n + k) =
      (run (recording fetch) k (after fetch s n).1).run (after fetch s n).2 := by
  rw [after, run_add]
  rfl

/-- The request that comes next, and what the walk makes of its answer. -/
theorem after_succ {gathered : List α} {k : Nat} {answer : Except Error (Page α)} {t' : σ}
    (h : after fetch s n = (.asking cursor gathered k, (t, calls)))
    (hfetch : fetch cursor t = (answer, t')) :
    after fetch s (n + 1) =
      (feed answer (.asking cursor gathered k), (t', calls ++ [(cursor, answer)])) := by
  have hcall : (recording fetch cursor).run (t, calls) =
      (answer, (t', calls ++ [(cursor, answer)])) := by
    simp only [recording, StateT.run, hfetch]
  rw [after_add, h]
  simp only [run, StateT.run_bind, StateT.run_pure, hcall]
  rfl

theorem Asked.after_eq (h : Asked fetch s calls pages cursor t) :
    after fetch s calls.length =
      (.asking cursor (pages.flatMap Page.items) pages.length, (t, calls)) := by
  induction h with
  | first => rfl
  | next _ hfetch hlast hnext ih =>
    rw [List.length_append, List.length_singleton, after_succ ih hfetch]
    simp [feed, hlast, hnext]

theorem Ended.after_eq (h : Ended fetch s calls outcome t) :
    after fetch s calls.length = (.stopped outcome, (t, calls)) := by
  cases h with
  | failed hasked hfetch =>
    rw [List.length_append, List.length_singleton, after_succ hasked.after_eq hfetch]
    rfl
  | last hasked hfetch hlast =>
    rw [List.length_append, List.length_singleton, after_succ hasked.after_eq hfetch]
    simp [feed, hlast]
  | broken hasked hfetch hlast hnext =>
    rw [List.length_append, List.length_singleton, after_succ hasked.after_eq hfetch]
    simp [feed, hlast, hnext]

/-- No request comes after the end. -/
theorem Ended.after_of_le (h : Ended fetch s calls outcome t) (hn : calls.length ≤ n) :
    after fetch s n = (.stopped outcome, (t, calls)) := by
  obtain ⟨k, rfl⟩ := Nat.exists_eq_add_of_le hn
  rw [after_add, h.after_eq, run_stopped]
  rfl

/-- However many requests a walk may make, it makes them all or has ended before. -/
theorem asked_or_ended (fetch : Fetch σ α) (s : σ) (n : Nat) :
    (∃ calls pages cursor t, Asked fetch s calls pages cursor t ∧ calls.length = n) ∨
      ∃ calls outcome t, Ended fetch s calls outcome t ∧ calls.length ≤ n := by
  induction n with
  | zero => exact .inl ⟨_, _, _, _, .first, rfl⟩
  | succ n ih =>
    rcases ih with ⟨calls, pages, cursor, t, hasked, rfl⟩ | ⟨calls, outcome, t, hended, hle⟩
    · rcases hfetch : fetch cursor t with ⟨answer, t'⟩
      have hlength : ∀ x : Call α, (calls ++ [x]).length ≤ calls.length + 1 := by simp
      cases answer with
      | error e => exact .inr ⟨_, _, _, .failed hasked hfetch, hlength _⟩
      | ok page =>
        cases hlast : page.last with
        | true => exact .inr ⟨_, _, _, .last hasked hfetch hlast, hlength _⟩
        | false =>
          cases hnext : page.next with
          | none => exact .inr ⟨_, _, _, .broken hasked hfetch hlast hnext, hlength _⟩
          | some successor =>
            exact .inl ⟨_, _, _, _, .next hasked hfetch hlast hnext, by simp⟩
    · exact .inr ⟨calls, outcome, t, hended, Nat.le_succ_of_le hle⟩

end Runs

section Pages

variable {fetch : Fetch σ α} {s t : σ} {calls : List (Call α)} {before pages : List (Page α)}
  {cursor : Option String} {outcome : Except Error (List α)} {items : List α}

/-- A page with a continuation token, or the final page. -/
def IsBuilt (page : Page α) : Prop :=
  (∃ items token, page = .ofToken items token) ∨ ∃ items, page = .ofLast items

theorem IsBuilt.next_ne_none {page : Page α} (h : IsBuilt page) (hlast : page.last = false) :
    page.next ≠ none := by
  rcases h with ⟨items, token, rfl⟩ | ⟨items, rfl⟩
  · have hsame : (Page.ofToken items token).last = (Page.ofToken items token).next.isNone := rfl
    intro hnone
    rw [hsame, hnone] at hlast
    cases hlast
  · cases hlast

/-- A walk over such pages fails only with the failure of its last request. -/
theorem Ended.getLast_of_error {e : Error} (h : Ended fetch s calls (.error e) t)
    (hbuilt : ∀ cursor page, (cursor, .ok page) ∈ calls → IsBuilt page) :
    ∃ cursor, calls.getLast? = some (cursor, .error e) := by
  cases h with
  | @failed _ _ cursor => exact ⟨cursor, List.getLast?_concat⟩
  | @broken _ _ cursor _ page _ _ _ hlast hnext =>
    have hpage : IsBuilt page := hbuilt cursor page (by simp)
    exact absurd hnext (hpage.next_ne_none hlast)

/-- Pages that hold a list of items between them, each but the last with a token. -/
inductive Split : List (Page α) → List α → Prop
  | last (items : List α) : Split [.ofLast items] items
  | tokenless (items : List α) {token : Option String} : token.filter (· ≠ "") = none →
      Split [.ofToken items token] items
  | more (items : List α) {token : String} {pages rest} : token ≠ "" → Split pages rest →
      Split (.ofToken items (some token) :: pages) (items ++ rest)

/-- Whether a service in a state answers with these pages, each under the cursor of the one
before. -/
def Serves (fetch : Fetch σ α) : Option String → σ → List (Page α) → Prop
  | _, _, [] => True
  | cursor, s, page :: pages => ∃ t, fetch cursor s = (.ok page, t) ∧ Serves fetch page.next t pages

theorem Asked.ended_of_last {page : Page α} {t' : σ} (h : Asked fetch s calls before cursor t)
    (hfetch : fetch cursor t = (.ok page, t')) (hlast : page.last = true) :
    Ended fetch s (calls ++ [(cursor, .ok page)]) (.ok (before.flatMap Page.items ++ page.items))
      t' := by
  simpa using Ended.last h hfetch hlast

theorem Asked.ended_of_split (h : Asked fetch s calls before cursor t) (hsplit : Split pages items)
    (hserves : Serves fetch cursor t pages) :
    ∃ calls' t', Ended fetch s (calls ++ calls') (.ok (before.flatMap Page.items ++ items)) t' ∧
      calls'.length = pages.length := by
  induction hsplit generalizing calls before cursor t with
  | last items =>
    obtain ⟨t', hfetch, _⟩ := hserves
    exact ⟨_, t', h.ended_of_last hfetch rfl, rfl⟩
  | @tokenless items token htoken =>
    obtain ⟨t', hfetch, _⟩ := hserves
    have hlast : (Page.ofToken items token).last = true := congrArg Option.isNone htoken
    exact ⟨_, t', h.ended_of_last hfetch hlast, rfl⟩
  | @more items token pages rest htoken _ ih =>
    obtain ⟨t', hfetch, hserves⟩ := hserves
    have hnext : (Page.ofToken items (some token)).next = some token := by
      simp [Page.ofToken, Option.filter, htoken]
    have hlast : (Page.ofToken items (some token)).last = false := congrArg Option.isNone hnext
    rw [hnext] at hserves
    obtain ⟨calls', t'', hended, hlength⟩ := ih (.next h hfetch hlast hnext) hserves
    refine ⟨(cursor, .ok (.ofToken items (some token))) :: calls', t'', ?_, by simp [hlength]⟩
    simpa [Page.ofToken] using hended

end Pages

/-- A walk has made all the requests that it may, each with the cursor of the page before, or has
ended, and then it makes no other. Where all pages are built with a token or as the last, it fails
only with a request; and pages into which a list is split come to that list. -/
theorem walk_exact (fetch : Fetch σ α) (s : σ) :
    (∀ n, (∃ calls pages cursor t, Asked fetch s calls pages cursor t ∧ calls.length = n ∧
          after fetch s n =
            (.asking cursor (pages.flatMap Page.items) pages.length, (t, calls))) ∨
        ∃ calls outcome t, Ended fetch s calls outcome t ∧ calls.length ≤ n ∧
          after fetch s n = (.stopped outcome, (t, calls))) ∧
      (∀ calls outcome t, Ended fetch s calls outcome t →
        (∀ n, calls.length ≤ n → after fetch s n = (.stopped outcome, (t, calls))) ∧
        ((∀ cursor page, (cursor, .ok page) ∈ calls → IsBuilt page) →
          ∀ e, outcome = .error e → ∃ cursor, calls.getLast? = some (cursor, .error e))) ∧
      ∀ pages items, Split pages items → Serves fetch none s pages →
        ∃ calls t, calls.length = pages.length ∧ Ended fetch s calls (.ok items) t ∧
          ∀ n, pages.length ≤ n → after fetch s n = (.stopped (.ok items), (t, calls)) := by
  refine ⟨fun n => ?_, fun calls outcome t h => ⟨fun n => h.after_of_le, ?_⟩, ?_⟩
  · rcases asked_or_ended fetch s n with ⟨calls, pages, cursor, t, h, rfl⟩ | ⟨calls, o, t, h, hle⟩
    · exact .inl ⟨calls, pages, cursor, t, h, rfl, h.after_eq⟩
    · exact .inr ⟨calls, o, t, h, hle, h.after_of_le hle⟩
  · rintro hbuilt e rfl
    exact h.getLast_of_error hbuilt
  · intro pages items hsplit hserves
    obtain ⟨calls, t, hended, hlength⟩ := Asked.first.ended_of_split hsplit hserves
    exact ⟨calls, t, hlength, hended, fun n hn => hended.after_of_le (hlength ▸ hn)⟩

/-- Answers in their order, whatever the cursors. -/
def scripted : Fetch (List (Except Error (Page Nat))) Nat := fun _ answers =>
  match answers with
  | [] => (.error (.auth "expired"), [])
  | answer :: rest => (answer, rest)

def threePages : List (Page Nat) :=
  [.ofToken [1, 2] (some "a"), .ofToken [] (some "b"), .ofToken [3] (some "")]

def failingAnswers : List (Except Error (Page Nat)) :=
  [.ok (.ofToken [1] (some "a")), .error .cancelled]

theorem threePages_walk :
    Split threePages [1, 2, 3] ∧ Serves scripted none (threePages.map .ok) threePages ∧
      (∃ calls t, calls.map (·.1) = [none, some "a", some "b"] ∧
        ∀ n, 3 ≤ n →
          after scripted (threePages.map .ok) n = (.stopped (.ok [1, 2, 3]), (t, calls))) ∧
      (after scripted failingAnswers 1).2.2.map (·.1) = [none] ∧
      ∃ calls, Ended scripted failingAnswers calls (.error .cancelled) [] ∧
        ∃ cursor, calls.getLast? = some (cursor, .error .cancelled) := by
  have hsplit : Split threePages [1, 2, 3] :=
    .more [1, 2] (by decide) (.more [] (by decide) (.tokenless [3] rfl))
  have hserves : Serves scripted none (threePages.map .ok) threePages :=
    ⟨_, rfl, _, rfl, _, rfl, trivial⟩
  obtain ⟨calls, t, _, _, hafter⟩ :=
    (walk_exact scripted (threePages.map .ok)).2.2 threePages [1, 2, 3] hsplit hserves
  have hcalls : (after scripted (threePages.map .ok) 3).2.2.map (·.1) =
      [none, some "a", some "b"] := rfl
  rw [hafter 3 (Nat.le_refl _)] at hcalls
  have hfails : Ended scripted failingAnswers
      [(none, .ok (.ofToken [1] (some "a"))), (some "a", .error .cancelled)]
      (.error .cancelled) [] :=
    .failed (.next .first rfl rfl rfl) rfl
  obtain ⟨_, hlast⟩ := (walk_exact scripted failingAnswers).2.1 _ _ _ hfails
  refine ⟨hsplit, hserves, ⟨calls, t, hcalls, hafter⟩, rfl, _, hfails, hlast ?_ _ rfl⟩
  intro cursor page hpage
  obtain ⟨rfl, rfl⟩ : cursor = none ∧ page = .ofToken [1] (some "a") := by simpa using hpage
  exact .inl ⟨_, _, rfl⟩

end Walk

end CloudInventory
