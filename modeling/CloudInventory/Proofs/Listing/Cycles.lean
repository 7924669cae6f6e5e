import CloudInventory.Proofs.Listing.Walks
import Mathlib.Data.Finset.Card

/-! Walks over a service that answers each request by its cursor alone. Nothing bounds the number of
pages and nothing looks for cycles: a walk goes on for ever exactly when it comes back to a cursor,
and otherwise it ends within one request more than there are cursors with a page. -/

namespace CloudInventory

namespace Walk

variable {α σ : Type}

abbrev Answers (α : Type) := Option String → Except Error (Page α)

/-- Whatever a service remembers, nothing but the cursor decides its answer. -/
def AnswersBy (answer : Answers α) (fetch : Fetch σ α) : Prop :=
  ∀ cursor s, (fetch cursor s).1 = answer cursor

def requested (fetch : Fetch σ α) (s : σ) (n : Nat) : List (Option String) :=
  (after fetch s n).2.2.map (·.1)

/-- After at most `n` requests there is an outcome, and no request comes after it. -/
def StopsWithin (fetch : Fetch σ α) (s : σ) (n : Nat) : Prop :=
  ∃ outcome, ∀ k, n ≤ k →
    (after fetch s k).1 = .stopped outcome ∧ (requested fetch s k).length ≤ n

def Endless (fetch : Fetch σ α) (s : σ) : Prop :=
  ∀ n, (∀ outcome, (after fetch s n).1 ≠ .stopped outcome) ∧ (requested fetch s n).length = n

/-! ### The trail of cursors -/

/-- The cursor that the page under another names, if a request follows. -/
def successor? (answer : Answers α) (cursor : Option String) : Option (Option String) :=
  match answer cursor with
  | .error _ => none
  | .ok page => if page.last then none else page.next.map some

/-- The cursor of the request that comes after `n` others, if there is one. -/
def trail (answer : Answers α) : Nat → Option (Option String)
  | 0 => some none
  | n + 1 => (trail answer n).bind (successor? answer)

section Trail

variable {answer : Answers α} {i j k n : Nat}

theorem trail_none_of_le (h : trail answer n = none) (hle : n ≤ k) : trail answer k = none := by
  induction hle with
  | refl => exact h
  | step _ ih => rw [trail, ih, Option.bind_none]

theorem trail_add (h : trail answer i = trail answer j) (k : Nat) :
    trail answer (i + k) = trail answer (j + k) := by
  induction k with
  | zero => exact h
  | succ k ih => rw [← Nat.add_assoc, ← Nat.add_assoc, trail, trail, ih]

theorem trail_ne_none_of_repeats (hlt : i < j) (h : trail answer i = trail answer j)
    (hsome : trail answer j ≠ none) (n : Nat) : trail answer n ≠ none := by
  induction n using Nat.strongRecOn with
  | ind n ih =>
    -- Beyond the second visit the trail is the one after the first, `j - i` requests earlier.
    by_cases hle : n ≤ j
    · exact fun hnone => hsome (trail_none_of_le hnone hle)
    · obtain ⟨k, rfl⟩ := Nat.exists_eq_add_of_le (Nat.le_of_not_le hle)
      rw [← trail_add h k]
      exact ih (i + k) (Nat.add_lt_add_right hlt k)

end Trail

section Service

variable {fetch : Fetch σ α} {s t : σ} {answer : Answers α} {calls : List (Call α)}
  {pages : List (Page α)} {cursor : Option String} {outcome : Except Error (List α)}

/-- The requests made are the first of the trail, which goes on with `next`. -/
structure Follows (answer : Answers α) (calls : List (Call α)) (next : Option (Option String)) :
    Prop where
  cursors : calls.map (some ·.1) = (List.range calls.length).map (trail answer)
  next : trail answer calls.length = next

theorem Follows.snoc (h : Follows answer calls (some cursor))
    (response : Except Error (Page α)) :
    Follows answer (calls ++ [(cursor, response)]) (successor? answer cursor) where
  cursors := by
    rw [List.map_append, h.cursors]
    simp [List.range_succ, h.next]
  next := by rw [List.length_append, List.length_singleton, trail, h.next, Option.bind_some]

theorem AnswersBy.answer_eq (h : AnswersBy answer fetch) {response : Except Error (Page α)} {t' : σ}
    (hfetch : fetch cursor t = (response, t')) : answer cursor = response := by
  rw [← h cursor t, hfetch]

theorem Asked.follows (hanswers : AnswersBy answer fetch) (h : Asked fetch s calls pages cursor t) :
    Follows answer calls (some cursor) := by
  induction h with
  | first => exact ⟨rfl, rfl⟩
  | @next _ _ cursor _ page successor _ _ hfetch hlast hnext ih =>
    have hsuccessor : successor? answer cursor = some (some successor) := by
      simp [successor?, hanswers.answer_eq hfetch, hlast, hnext]
    exact hsuccessor ▸ ih.snoc (.ok page)

theorem Asked.follows_end (hanswers : AnswersBy answer fetch)
    (h : Asked fetch s calls pages cursor t) (hnone : successor? answer cursor = none)
    (response : Except Error (Page α)) : Follows answer (calls ++ [(cursor, response)]) none :=
  hnone ▸ (h.follows hanswers).snoc response

theorem Ended.follows (hanswers : AnswersBy answer fetch) (h : Ended fetch s calls outcome t) :
    Follows answer calls none := by
  cases h with
  | failed hasked hfetch =>
    exact hasked.follows_end hanswers (by simp [successor?, hanswers.answer_eq hfetch]) _
  | last hasked hfetch hlast =>
    exact hasked.follows_end hanswers (by simp [successor?, hanswers.answer_eq hfetch, hlast]) _
  | broken hasked hfetch hlast hnext =>
    refine hasked.follows_end hanswers ?_ _
    simp [successor?, hanswers.answer_eq hfetch, hlast, hnext]

variable {next : Option (Option String)}

theorem Follows.trail_ne_none_of_lt (h : Follows answer calls next) {k : Nat}
    (hk : k < calls.length) : trail answer k ≠ none := by
  have hmem : trail answer k ∈ calls.map (some ·.1) := by
    rw [h.cursors]
    exact List.mem_map_of_mem (List.mem_range.mpr hk)
  obtain ⟨call, _, hcall⟩ := List.mem_map.mp hmem
  exact hcall ▸ Option.some_ne_none _

theorem Follows.exists_repeat (h : Follows answer calls next)
    (hrepeats : ¬(calls.map (·.1)).Nodup) :
    ∃ i j, i < j ∧ j < calls.length ∧ trail answer i = trail answer j := by
  have hcursors : calls.map (some ·.1) = (calls.map (·.1)).map some := by simp
  have hrange : ¬((List.range calls.length).map (trail answer)).Nodup := by
    intro hnodup
    rw [← h.cursors, hcursors] at hnodup
    exact hrepeats hnodup.of_map
  by_contra hnone
  refine hrange (List.Nodup.map_on (fun i hi j hj hsame => ?_) List.nodup_range)
  by_contra hne
  rcases Nat.lt_or_gt_of_ne hne with hlt | hlt
  · exact hnone ⟨i, j, hlt, List.mem_range.mp hj, hsame⟩
  · exact hnone ⟨j, i, hlt, List.mem_range.mp hi, hsame.symm⟩

theorem Follows.trail_ne_none (h : Follows answer calls next)
    (hrepeats : ¬(calls.map (·.1)).Nodup) (n : Nat) : trail answer n ≠ none := by
  obtain ⟨i, j, hlt, hj, hsame⟩ := h.exists_repeat hrepeats
  exact trail_ne_none_of_repeats hlt hsame (h.trail_ne_none_of_lt hj) n

theorem Asked.mem_cursors (hanswers : AnswersBy answer fetch) {cursors : Finset (Option String)}
    (hcursors : ∀ cursor page, answer cursor = .ok page → cursor ∈ cursors)
    (h : Asked fetch s calls pages cursor t) : ∀ c ∈ calls.map (·.1), c ∈ cursors := by
  induction h with
  | first => simp
  | next _ hfetch _ _ ih =>
    intro c hc
    rw [List.map_append, List.mem_append] at hc
    rcases hc with hc | hc
    · exact ih c hc
    · obtain rfl := List.mem_singleton.mp hc
      exact hcursors _ _ (hanswers.answer_eq hfetch)

theorem Asked.length_le (hanswers : AnswersBy answer fetch) {cursors : Finset (Option String)}
    (hcursors : ∀ cursor page, answer cursor = .ok page → cursor ∈ cursors)
    (h : Asked fetch s calls pages cursor t) (hnodup : (calls.map (·.1)).Nodup) :
    calls.length ≤ cursors.card := by
  have hmem := h.mem_cursors hanswers hcursors
  have hcard := Finset.card_le_card fun c hc => hmem c (List.mem_toFinset.mp hc)
  rwa [List.toFinset_card_of_nodup hnodup, List.length_map] at hcard

theorem Asked.requested_eq (h : Asked fetch s calls pages cursor t) :
    requested fetch s calls.length = calls.map (·.1) := by
  rw [requested, h.after_eq]

theorem Ended.requested_eq (h : Ended fetch s calls outcome t) {n : Nat} (hle : calls.length ≤ n) :
    requested fetch s n = calls.map (·.1) := by
  rw [requested, h.after_of_le hle]

theorem endless_of_trail (hanswers : AnswersBy answer fetch) (h : ∀ n, trail answer n ≠ none) :
    Endless fetch s := by
  intro n
  rcases asked_or_ended fetch s n with ⟨calls, pages, cursor, t, hasked, rfl⟩ |
    ⟨calls, outcome, t, hended, _⟩
  · refine ⟨fun outcome hstopped => ?_, by rw [hasked.requested_eq, List.length_map]⟩
    rw [hasked.after_eq] at hstopped
    cases hstopped
  · exact absurd (hended.follows hanswers).next (h _)

theorem endless_of_repeats (hanswers : AnswersBy answer fetch) {n : Nat}
    (hrepeats : ¬(requested fetch s n).Nodup) : Endless fetch s := by
  refine endless_of_trail hanswers ?_
  rcases asked_or_ended fetch s n with ⟨calls, pages, cursor, t, hasked, rfl⟩ |
    ⟨calls, outcome, t, hended, hle⟩
  · rw [hasked.requested_eq] at hrepeats
    exact (hasked.follows hanswers).trail_ne_none hrepeats
  · rw [hended.requested_eq hle] at hrepeats
    exact (hended.follows hanswers).trail_ne_none hrepeats

theorem stops_or_repeats (hanswers : AnswersBy answer fetch) {cursors : Finset (Option String)}
    (hcursors : ∀ cursor page, answer cursor = .ok page → cursor ∈ cursors) :
    StopsWithin fetch s (cursors.card + 1) ∨
      ¬(requested fetch s (cursors.card + 1)).Nodup := by
  rcases asked_or_ended fetch s (cursors.card + 1) with ⟨calls, pages, cursor, t, hasked, hlength⟩ |
    ⟨calls, outcome, t, hended, hle⟩
  · -- All its requests had a page, and there are more of them than cursors with one.
    refine .inr fun hnodup => ?_
    rw [← hlength, hasked.requested_eq] at hnodup
    have hle := hasked.length_le hanswers hcursors hnodup
    omega
  · refine .inl ⟨outcome, fun k hk => ⟨?_, ?_⟩⟩
    · exact congrArg Prod.fst (hended.after_of_le (hle.trans hk))
    · rwa [hended.requested_eq (hle.trans hk), List.length_map]

end Service

/-- A walk over a service that answers by the cursor ends within one request more than there are
cursors with a page, or never; it never ends exactly where it comes back to a cursor, and one that
ends has asked for no page twice. -/
theorem stops_unless_repeats (fetch : Fetch σ α) (s : σ) (answer : Answers α)
    (cursors : Finset (Option String)) (hanswers : AnswersBy answer fetch)
    (hcursors : ∀ cursor page, answer cursor = .ok page → cursor ∈ cursors) :
    (StopsWithin fetch s (cursors.card + 1) ∨ Endless fetch s) ∧
      (Endless fetch s ↔ ∃ n, ¬(requested fetch s n).Nodup) ∧
      ∀ n outcome, (after fetch s n).1 = .stopped outcome → (requested fetch s n).Nodup := by
  refine ⟨?_, ⟨fun hendless => ?_, fun ⟨_, h⟩ => endless_of_repeats hanswers h⟩, ?_⟩
  · exact (stops_or_repeats hanswers hcursors).imp_right (endless_of_repeats hanswers)
  · rcases stops_or_repeats (s := s) hanswers hcursors with ⟨outcome, hstops⟩ | hrepeats
    · exact absurd (hstops _ (Nat.le_refl _)).1 ((hendless _).1 outcome)
    · exact ⟨_, hrepeats⟩
  · intro n outcome hstopped
    by_contra hrepeats
    exact (endless_of_repeats hanswers hrepeats n).1 outcome hstopped

/-- Answers by the cursor, with a count of all requests. -/
def counting (answer : Answers Nat) : Fetch Nat Nat := fun cursor n => (answer cursor, n + 1)

/-- The third page leads back to the second. -/
def circle : Answers Nat
  | none => .ok (.ofToken [1] (some "a"))
  | some "a" => .ok (.ofToken [2] (some "b"))
  | some "b" => .ok (.ofToken [3] (some "a"))
  | some _ => .error .cancelled

/-- The second page leads nowhere. -/
def deadEnd : Answers Nat
  | none => .ok (.ofToken [1] (some "a"))
  | some "a" => .ok (.ofToken [2] (some "b"))
  | some _ => .error .cancelled

theorem circle_endless :
    AnswersBy circle (counting circle) ∧ AnswersBy deadEnd (counting deadEnd) ∧
      requested (counting circle) 0 4 = [none, some "a", some "b", some "a"] ∧
      Endless (counting circle) 0 ∧ StopsWithin (counting deadEnd) 0 3 ∧
      requested (counting deadEnd) 0 3 = [none, some "a", some "b"] := by
  have hcircle : ∀ cursor page, circle cursor = .ok page → cursor ∈ ({none, some "a", some "b"} :
      Finset (Option String)) := by
    intro cursor page hpage
    unfold circle at hpage
    split at hpage <;> simp_all
  have hdeadEnd : ∀ cursor page, deadEnd cursor = .ok page → cursor ∈ ({none, some "a"} :
      Finset (Option String)) := by
    intro cursor page hpage
    unfold deadEnd at hpage
    split at hpage <;> simp_all
  have hrequested : requested (counting circle) 0 4 = [none, some "a", some "b", some "a"] := rfl
  obtain ⟨_, hendless, _⟩ :=
    stops_unless_repeats (counting circle) 0 circle _ (fun _ _ => rfl) hcircle
  obtain ⟨hstops, _⟩ :=
    stops_unless_repeats (counting deadEnd) 0 deadEnd _ (fun _ _ => rfl) hdeadEnd
  refine ⟨fun _ _ => rfl, fun _ _ => rfl, hrequested, hendless.mpr ⟨4, ?_⟩, ?_, rfl⟩
  · rw [hrequested]
    decide
  · exact hstops.resolve_right fun hendless => (hendless 3).1 (.error .cancelled) rfl

end Walk

end CloudInventory
