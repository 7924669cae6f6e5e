import CloudInventory.Proofs.Scan.Sourced
import Mathlib.Order.Lattice.Nat

/-! The rank of a scan over a source whose listings end: the list calls and the work that it has
still before it. Every step that changes the scan lowers its rank. -/

namespace CloudInventory

/-- The work that a listing brings, once it is done. -/
def Listing.outcomeWork : Except ListingFailure (List ReadArgs) → Nat
  | .ok args => (Progress.submitting 0 args).work
  | .error _ => 0

namespace Scan

/-- What a listing leaves to do: its list calls, and the work that it brings. -/
noncomputable def loadOf (source : Source) (project : String) (p : Supplier) : Nat :=
  match p.progress with
  | .listing l => sInf {k | ∃ n outcome, source.Ends p.type project n l outcome ∧
      n + Listing.outcomeWork outcome = k}
  | _ => 0

noncomputable def load (source : Source) (s : Scan) : Nat :=
  (s.suppliers.map (loadOf source s.project)).sum

noncomputable def rank (source : Source) (s : Scan) : Nat :=
  s.load source + ((s.suppliers.map (·.progress.work)).sum + s.pool.work)

end Scan

namespace Survey

open Scan (loadOf)

variable {project : String} {types : List ResourceType} {limit : Nat} {alerts : Alerts}
  {source : Source} {u v w : Survey} {i n : Nat} {t : ResourceType} {l l' : Listing}
  {call : ListRequest × Option String} {page : Except Error (Page Json)}
  {outcome : Except ListingFailure (List ReadArgs)}

theorem rank_eq (source : Source) (u : Survey) :
    u.scan.rank source = u.scan.load source + u.work := rfl

section Loads

theorem loadOf_listing (h : source.Ends t project n l outcome) :
    loadOf source project ⟨t, .listing l⟩ = n + Listing.outcomeWork outcome := by
  have hset : {k | ∃ n outcome, source.Ends t project n l outcome ∧
      n + Listing.outcomeWork outcome = k} = {n + Listing.outcomeWork outcome} := by
    ext k
    constructor
    · rintro ⟨m, outcome', hm, rfl⟩
      obtain ⟨rfl, rfl⟩ := hm.unique h
      rfl
    · rintro rfl
      exact ⟨n, outcome, h, rfl⟩
  simp only [loadOf, hset, csInf_singleton]

theorem load_setProgress (source : Source) {old : Progress} (new : Progress)
    (hi : u.scan.suppliers[i]? = some ⟨t, old⟩)
    (hs : w.scan.suppliers = u.scan.suppliers) (hp : w.scan.project = u.scan.project) :
    (w.setProgress i new).scan.load source + loadOf source u.scan.project ⟨t, old⟩ =
      u.scan.load source + loadOf source u.scan.project ⟨t, new⟩ := by
  have hsum := sum_modify (f := fun p : Supplier => { p with progress := new })
    (g := loadOf source u.scan.project) hi
  simpa only [Scan.load, setProgress, Scan.setProgress, hs, hp] using hsum

theorem load_of_change (source : Source) (h : Change u v) (hheard : v.log.heard = u.log.heard) :
    v.scan.load source = u.scan.load source := by
  cases h with
  | idle | awaits | advances | cancels => rfl
  | hears | opens | fails =>
    simp [Scan.Log.hear, Scan.Log.openRunner, Scan.Log.note, Scan.Log.send] at hheard
  | waits hi | refused hi | skips hi | begins _ hi | gives_up hi | settles hi =>
    exact load_setProgress source _ hi rfl rfl

end Loads

section Answers

theorem rank_listed (hi : u.scan.suppliers[i]? = some ⟨t, .listing l⟩)
    (hl : source.Ends t u.scan.project (n + 1) l outcome)
    (hl' : source.Ends t u.scan.project n l' outcome) :
    (u.listed i t call page l').scan.rank source < u.scan.rank source := by
  have hless : ∀ {w : Survey} {new : Progress}, w.scan.suppliers = u.scan.suppliers →
      w.scan.project = u.scan.project → w.scan.pool.work = u.scan.pool.work →
      loadOf source u.scan.project ⟨t, new⟩ + new.work ≤ n + Listing.outcomeWork outcome →
      (w.setProgress i new).scan.rank source < u.scan.rank source := by
    intro w new hs hp hpool hnew
    have hload := load_setProgress source new hi hs hp
    have hwork := work_setProgress_add new hi hs
    have hlisting : (Progress.listing l).work = 0 := rfl
    rw [loadOf_listing hl] at hload
    rw [rank_eq, rank_eq]
    omega
  cases l' with
  | first | below => exact hless rfl rfl rfl (loadOf_listing hl').le
  | done result =>
    cases hl' with
    | call hcall => cases hcall
    | done =>
      cases outcome with
      | ok args =>
        have hpool := Pool.work_addRunner u.scan.pool
        exact hless rfl rfl hpool (Nat.le_refl _)
      | error f => exact hless rfl rfl rfl (Nat.le_refl _)

theorem rank_answer (hs : Sound project types limit alerts u) (h : Sourced source u)
    (hends : ∀ t ∈ types, source.Terminates project t)
    (hpage : (Move.answer i page).IsFrom source u) :
    u.take (.answer i page) = u ∨
      (u.take (.answer i page)).scan.rank source < u.scan.rank source := by
  rcases answer_cases i page u with ⟨_, hsame⟩ | ⟨t, l, call, hi, hcall, hreq, hlisted⟩
  · exact .inl hsame
  · obtain rfl := hpage call hreq
    have ht := List.mem_of_getElem? (hs.tallies.type_of_supplier hi)
    obtain ⟨_, outcome, hstart⟩ := hends t ht
    rw [← hs.tallies.project] at hstart
    have hplaced : Placed project u i t (.listing l) := hs.placed i _ hi
    cases hplaced with
    | listing hheard =>
      rw [← hs.tallies.project] at hheard
      obtain ⟨k, hk⟩ := hstart.heard hheard (h.heardBy i)
      obtain ⟨m, rfl, hm⟩ := hk.next hcall
      exact .inr (hlisted ▸ rank_listed hi hk hm)

theorem answer_moves (hreq : u.scan.request? i = some call) (page : Except Error (Page Json)) :
    u.take (.answer i page) ≠ u := by
  intro hsame
  have hheard := heard_answer hreq page
  rw [hsame] at hheard
  simp at hheard

end Answers

theorem rank_take (hs : Sound project types limit alerts u) (h : Sourced source u)
    (hends : ∀ t ∈ types, source.Terminates project t) {m : Move} (hm : u.Allows m)
    (hfrom : m.IsFrom source u) :
    u.take m = u ∨ (u.take m).scan.rank source < u.scan.rank source := by
  by_cases hanswer : m.IsAnswer
  · cases m with
    | answer i page => exact rank_answer hs h hends hfrom
    | submit | await | advance | cancel => exact hanswer.elim
  · have hload := load_of_change source (change_take hm) (heard_take hanswer u)
    refine (take_work hm hanswer).imp_right fun hless => ?_
    rw [rank_eq, rank_eq, hload]
    exact Nat.add_lt_add_left hless _

end Survey

end CloudInventory
