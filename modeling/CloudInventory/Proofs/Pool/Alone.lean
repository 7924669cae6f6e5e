import CloudInventory.Proofs.Pool.Isolation
import CloudInventory.Proofs.Pool.Turns

/-! A runner alone, in a pool of the same limit that nobody else uses, and the moves that are its
own. Others can only keep it waiting for a permit, so the looks that find none are left out. -/

namespace CloudInventory

namespace Pool

variable {α : Type} {limit i j k : Nat} {l l' : Log α} {p p' : Pool α} {a : Active α}

/-- A pool of the same limit with this one runner. -/
def alone (j : Nat) (p : Pool α) : Pool α where
  limit := p.limit
  free := p.limit - (p.activeOf j).length
  cancelled := p.cancelled
  active := (p.activeOf j).map fun x => ⟨0, x.1, x.2⟩
  runners := (p.runners[j]?).toList

/-- The place of an active job among those of its runner. -/
def rank (j : Nat) (p : Pool α) (k : Nat) : Nat := rankOf j Active.entry p.active k

@[simp] theorem alone_runner (j : Nat) (p : Pool α) : (p.alone j).runners[0]? = p.runners[j]? := by
  cases h : p.runners[j]? <;> simp [alone, h]

@[simp] theorem alone_phase? (j : Nat) (p : Pool α) : (p.alone j).phase? 0 = p.phase? j := by
  simp [phase?]

@[simp] theorem alone_hasFailed (j : Nat) (p : Pool α) :
    (p.alone j).hasFailed 0 = p.hasFailed j := by simp [hasFailed]

@[simp] theorem alone_isClosed (j : Nat) (p : Pool α) : (p.alone j).isClosed 0 = p.isClosed j := by
  rw [isClosed, alone_hasFailed]
  rfl

@[simp] theorem alone_settled? (j : Nat) (p : Pool α) :
    (p.alone j).settled? 0 = p.settled? j := by simp [settled?]

theorem hasActive_eq (j : Nat) (p : Pool α) : p.hasActive j = !(p.activeOf j).isEmpty := by
  unfold hasActive activeOf
  induction p.active with
  | nil => rfl
  | cons a as ih => by_cases h : a.owner = j <;> simp [Active.entry, h, ih]

theorem alone_hasActive (j : Nat) (p : Pool α) : (p.alone j).hasActive 0 = p.hasActive j := by
  rw [hasActive_eq j p, hasActive, alone]
  cases p.activeOf j <;> simp

theorem alone_of_keeps (h : Keeps j l p l' p') (hlimit : p'.limit = p.limit)
    (hc : p'.cancelled = p.cancelled) : p'.alone j = p.alone j := by
  simp [alone, h.runner, h.active, hlimit, hc]

theorem length_activeOf_le (j : Nat) (p : Pool α) : (p.activeOf j).length ≤ p.active.length := by
  have hle := List.length_filterMap_le (fun x => if x.1 = j then some x.2 else none)
    (p.active.map Active.entry)
  rwa [List.length_map] at hle

theorem alone_new (j limit : Nat) : (Pool.new limit : Pool α).alone j = Pool.new limit := by
  simp [alone, activeOf, Pool.new]

theorem alone_addRunner (h : p.runners.length = j) :
    p.addRunner.alone j = (p.alone j).addRunner := by
  subst h
  simp [alone, activeOf, addRunner]

theorem alone_modifyRunner (j : Nat) (f : Runner α → Runner α) (p : Pool α) :
    (p.modifyRunner j f).alone j = (p.alone j).modifyRunner 0 f := by
  cases h : p.runners[j]? <;> simp [alone, activeOf, modifyRunner, h]

theorem alone_accept (j : Nat) (job : Job α) (p : Pool α) :
    (p.accept j job).alone j = (p.alone j).accept 0 job := by
  have hactive : (p.accept j job).activeOf j = p.activeOf j ++ [(job, .running)] := by
    simp [activeOf, accept, Active.entry]
  have hrunners := congrArg runners (alone_modifyRunner j Runner.accepted p)
  simp only [alone, hactive, List.length_append, List.length_singleton, Nat.sub_add_eq,
    List.map_append, List.map_singleton]
  exact congrArg (Pool.mk p.limit _ p.cancelled _) hrunners

section Jobs

theorem alone_active (ha : p.active[k]? = some a) (h : a.owner = j) :
    (p.alone j).active[p.rank j k]? = some { a with owner := 0 } := by
  have hget : (p.activeOf j)[p.rank j k]? = some (a.job, a.stage) :=
    ownedBy_getElem?_rankOf (e := Active.entry) ha h
  simp [alone, hget]

theorem alone_moveTo (ha : p.active[k]? = some a) (h : a.owner = j) (stage : Stage) :
    (p.moveTo k stage).alone j = (p.alone j).moveTo (p.rank j k) stage := by
  have hactive : (p.moveTo k stage).activeOf j =
      (p.activeOf j).modify (p.rank j k) fun x => (x.1, stage) :=
    ownedBy_modify (e := Active.entry) ha h (by simp [Active.entry, h])
  have hmap := map_modify (f := fun x => (x.1, stage))
    (g := fun x : Job α × Stage => (⟨0, x.1, x.2⟩ : Active α))
    (h := fun a => { a with stage := stage }) (fun _ => rfl) (p.activeOf j) (p.rank j k)
  unfold alone
  rw [hactive, List.length_modify, hmap]
  rfl

theorem alone_release (ha : p.active[k]? = some a) (h : a.owner = j)
    (hle : p.active.length ≤ p.limit) :
    (p.release k a).alone j = (p.alone j).release (p.rank j k) { a with owner := 0 } := by
  have hactive : (p.release k a).activeOf j = (p.activeOf j).eraseIdx (p.rank j k) :=
    ownedBy_eraseIdx (e := Active.entry) ha h
  have hlt : p.rank j k < (p.activeOf j).length := by
    have hget : (p.activeOf j)[p.rank j k]? = some (a.job, a.stage) :=
      ownedBy_getElem?_rankOf (e := Active.entry) ha h
    exact (List.getElem?_eq_some_iff.mp hget).1
  have hlimit : (p.activeOf j).length ≤ p.limit := Nat.le_trans (length_activeOf_le j p) hle
  have hfree : p.limit - ((p.activeOf j).length - 1) = p.limit - (p.activeOf j).length + 1 := by
    omega
  have hrunner : ((p.release k a).runners[j]?).toList =
      (p.runners[j]?).toList.modify 0 (Runner.ended a.job.ending) := by
    subst h
    exact congrArg runners (alone_modifyRunner a.owner (Runner.ended a.job.ending) p)
  unfold alone
  rw [hactive, List.length_eraseIdx_of_lt hlt, ← List.eraseIdx_map, hrunner]
  exact congrArg (Pool.mk p.limit · p.cancelled _ _) hfree

theorem alone_advance (ha : p.active[k]? = some a) (h : a.owner = j)
    (hle : p.active.length ≤ p.limit) :
    (p.advance k).alone j = (p.alone j).advance (p.rank j k) := by
  have hget := alone_active ha h
  have hsame : ({ a with owner := 0 } : Active α).next = a.next := rfl
  cases hn : a.next with
  | record e =>
    rw [hn] at hsame
    have hmove := alone_moveTo (p := p.modifyRunner j (Runner.record e)) ha h .recorded
    rw [alone_modifyRunner] at hmove
    simp only [advance, ha, hget, hn, hsame, h]
    exact hmove
  | mark =>
    rw [hn] at hsame
    have hmove := alone_moveTo (p := p.modifyRunner j Runner.mark) ha h .marked
    rw [alone_modifyRunner] at hmove
    simp only [advance, ha, hget, hn, hsame, h]
    exact hmove
  | release =>
    rw [hn] at hsame
    simp only [advance, ha, hget, hn, hsame]
    exact alone_release ha h hle

end Jobs

theorem alone_await (j : Nat) (p : Pool α) : (p.await j).alone j = (p.alone j).await 0 := by
  have hcancelled : (p.alone j).cancelled = p.cancelled := rfl
  cases hr : p.runners[j]? with
  | none => simp only [await, alone_runner, hr]
  | some r =>
    cases hp : r.phase with
    | collecting | settled | dropped => simp only [await, alone_runner, hr, hp]
    | waiting =>
      simp only [await, alone_runner, hr, hp, hcancelled, alone_hasActive]
      split_ifs
      · exact alone_modifyRunner j _ p
      · exact alone_modifyRunner j _ p
      · rfl
      · exact alone_modifyRunner j _ p

end Pool

/-- A verdict without its ticket, which counts the jobs of all runners. -/
def Verdict.bare : Verdict → Verdict
  | .accepted _ => .accepted 0
  | verdict => verdict

namespace Dispatch

variable {α : Type} {limit i j k : Nat} {u v w : Dispatch α} {c : Call α} {m : Move α}
  {ms : List (Move α)}

def toldOf (i : Nat) (u : Dispatch α) : List (Job α × Verdict) :=
  (u.answersOf i).map fun x => (x.1, x.2.bare)

/-- What the submission to a runner looks at next. -/
def gate? (i : Nat) (u : Dispatch α) : Option Gate := (u.callsOf i).head?.map (·.2)

/-- A move that ends a look of the submission to a runner, and whether the look was in vain. -/
def lookEnd? (j : Nat) (m : Move α) (u : Dispatch α) : Option Bool :=
  match u.gate? j with
  | none | some .scope => some false
  | some gate =>
    if u.runner? m = some j then
      match m with
      | .enter _ => some false
      | .acquire _ => if gate = .permit then some (u.pool.free == 0) else none
      | _ => none
    else none

/-- Whether the submission to a runner is amid a look that is going to find no permit. -/
def inVain (j : Nat) : List (Move α) → Dispatch α → Bool
  | [], _ => false
  | m :: ms, u => (u.lookEnd? j m).getD (inVain j ms (u.take m))

/-- The runner's own move in a pool where it is alone. -/
def renumber (j : Nat) (u : Dispatch α) : Move α → Move α
  | .openRunner => .openRunner
  | .call _ job => .call 0 job
  | .enter _ => .enter 0
  | .look _ => .look 0
  | .acquire _ => .acquire 0
  | .abandon _ => .abandon 0
  | .advance k => .advance (u.pool.rank j k)
  | .startWait _ => .startWait 0
  | .await _ => .await 0
  | .drop _ => .drop 0
  | .cancel => .cancel

/-- Whether a move is one of the runner's own or cancels the pool. -/
def concerns (j : Nat) (u : Dispatch α) : Move α → Bool
  | .cancel => true
  | m => u.runner? m == some j

/-- Of the runner's own moves the looks that find no permit are left out. -/
def isKept (j : Nat) (m : Move α) (ms : List (Move α)) (u : Dispatch α) : Bool :=
  u.concerns j m &&
    match m with
    | .enter _ => !inVain j ms (u.take m)
    | .look _ => u.gate? j == some .mark && !inVain j ms (u.take m)
    | .acquire _ => u.gate? j == some .permit && decide (0 < u.pool.free)
    | _ => true

/-- The moves of one runner out of the moves of all. -/
def ownMoves (j : Nat) : List (Move α) → Dispatch α → List (Move α)
  | [], _ => []
  | m :: ms, u =>
    if isKept j m ms u then u.renumber j m :: ownMoves j ms (u.take m)
    else ownMoves j ms (u.take m)

section Calls

theorem callsOf_of_idle (h : u.IsIdle j) : u.callsOf j = [] := by
  apply ownedBy_eq_nil
  intro x hx
  obtain ⟨c, hc, rfl⟩ := List.mem_map.mp hx
  exact h c hc

theorem runners_goTo (k : Nat) (gate : Gate) (u : Dispatch α) :
    (u.goTo k gate).calls.map (·.runner) = u.calls.map (·.runner) :=
  map_modify_of_eq (f := fun c : Call α => { c with gate := gate }) (fun _ => rfl) u.calls k

theorem runners_take (hm : ∀ i job, m ≠ .call i job) (u : Dispatch α) :
    ((u.take m).calls.map (·.runner)).Sublist (u.calls.map (·.runner)) := by
  have hgo : ∀ k gate, ((u.goTo k gate).calls.map (·.runner)).Sublist (u.calls.map (·.runner)) :=
    fun k gate => runners_goTo k gate u ▸ List.Sublist.refl _
  have herase : ∀ k, ((u.calls.eraseIdx k).map (·.runner)).Sublist (u.calls.map (·.runner)) :=
    fun k => (List.eraseIdx_sublist u.calls k).map _
  cases m with
  | call i job => exact absurd rfl (hm i job)
  | enter k =>
    simp only [take]
    split
    · exact .refl _
    · split
      · exact herase k
      · exact hgo k .mark
  | look k =>
    simp only [take, lookAt]
    split
    · exact .refl _
    · split_ifs
      · exact herase k
      · exact hgo k .permit
      · exact .refl _
  | acquire k =>
    simp only [take, acquireAt]
    split
    · exact .refl _
    · split_ifs
      · exact herase k
      · exact hgo k .scope
      · exact .refl _
  | abandon k => exact herase k
  | openRunner | advance | startWait | await | drop | cancel => exact .refl _

/-- A runner has one submission in flight at a time. -/
theorem Reached.calls_nodup (h : Reached limit u) : (u.calls.map (·.runner)).Nodup := by
  induction h with
  | refl => exact .nil
  | @tail v w _ hstep ih =>
    obtain ⟨m, hm, rfl⟩ := hstep
    by_cases hcall : ∃ i job, m = .call i job
    · obtain ⟨i, job, rfl⟩ := hcall
      have hidle : ∀ c ∈ v.calls, c.runner ≠ i := hm.2
      simp only [take, List.map_append, List.map_singleton]
      refine List.nodup_append.mpr ⟨ih, by simp, ?_⟩
      intro r hr r' hr'
      obtain ⟨c, hc, rfl⟩ := List.mem_map.mp hr
      obtain rfl := List.mem_singleton.mp hr'
      exact hidle c hc
    · simp only [not_exists] at hcall
      exact (runners_take hcall v).nodup ih

variable (hn : (u.calls.map (·.runner)).Nodup)
include hn

theorem callsOf_eq (hk : u.calls[k]? = some c) (hc : c.runner = j) :
    u.callsOf j = [(c.job, c.gate)] := by
  subst hc
  obtain ⟨xs, ys, hcalls, _⟩ := exists_eq_append_cons hk
  rw [hcalls, List.map_append, List.map_cons] at hn
  obtain ⟨_, hys, hxs⟩ := List.nodup_append.mp hn
  have hbefore : ownedBy c.runner (xs.map Call.entry) = [] := by
    apply ownedBy_eq_nil
    intro x hx
    obtain ⟨d, hd, rfl⟩ := List.mem_map.mp hx
    exact hxs _ (List.mem_map_of_mem hd) _ List.mem_cons_self
  have hafter : ownedBy c.runner (ys.map Call.entry) = [] := by
    apply ownedBy_eq_nil
    intro x hx
    obtain ⟨d, hd, rfl⟩ := List.mem_map.mp hx
    intro heq
    exact (List.nodup_cons.mp hys).1 (heq ▸ List.mem_map_of_mem hd)
  simp [callsOf, hcalls, hbefore, hafter, Call.entry]

theorem rankOf_call (hk : u.calls[k]? = some c) (hc : c.runner = j) :
    rankOf j Call.entry u.calls k = 0 := by
  have hget : (u.callsOf j)[rankOf j Call.entry u.calls k]? = some (c.job, c.gate) :=
    ownedBy_getElem?_rankOf (e := Call.entry) hk hc
  rw [callsOf_eq hn hk hc] at hget
  simpa using (List.getElem?_eq_some_iff.mp hget).1

theorem callsOf_answer (hk : u.calls[k]? = some c) (hc : c.runner = j) (verdict : Verdict) :
    (u.answer k c verdict).callsOf j = [] := by
  have hcalls := callsOf_eq hn hk hc
  have herase : (u.answer k c verdict).callsOf j = (u.callsOf j).eraseIdx 0 := by
    rw [← rankOf_call hn hk hc]
    exact ownedBy_eraseIdx (e := Call.entry) hk hc
  rw [herase, hcalls, List.eraseIdx_zero, List.tail_cons]

theorem callsOf_goTo (hk : u.calls[k]? = some c) (hc : c.runner = j) (gate : Gate) :
    (u.goTo k gate).callsOf j = [(c.job, gate)] := by
  have hcalls := callsOf_eq hn hk hc
  have hmodify : (u.goTo k gate).callsOf j = (u.callsOf j).modify 0 fun x => (x.1, gate) := by
    rw [← rankOf_call hn hk hc]
    exact ownedBy_modify (e := Call.entry) hk hc (by simp [Call.entry, hc])
  rw [hmodify, hcalls, List.modify_zero_cons]

theorem gate?_of_mem {x : Job α × Gate} (hx : x ∈ u.callsOf j) : u.gate? j = some x.2 := by
  obtain ⟨y, hy, hyx⟩ := List.mem_filterMap.mp hx
  obtain ⟨c, hc, rfl⟩ := List.mem_map.mp hy
  obtain ⟨k, hk⟩ := List.mem_iff_getElem?.mp hc
  have hown : c.runner = j := by
    by_contra hne
    simp [Call.entry, hne] at hyx
  obtain rfl : (c.job, c.gate) = x := by simpa [Call.entry, hown] using hyx
  simp [gate?, callsOf_eq hn hk hown]

theorem gate?_eq (hk : u.calls[k]? = some c) (hc : c.runner = j) : u.gate? j = some c.gate := by
  simp [gate?, callsOf_eq hn hk hc]

end Calls

section Vain

variable {gate : Gate}

theorem inVain_of_idle (h : u.callsOf j = []) : inVain j ms u = false := by
  cases ms with
  | nil => rfl
  | cons m ms => simp [inVain, lookEnd?, gate?, h]

theorem lookEnd?_of_ne (hg : u.gate? j = some gate) (hs : gate ≠ .scope)
    (hm : u.runner? m ≠ some j) : u.lookEnd? j m = none := by
  cases gate <;> simp_all [lookEnd?]

theorem lookEnd?_of_whole (hg : u.gate? j = some gate) (hs : gate ≠ .scope)
    (hm : m.isWhole = true) : u.lookEnd? j m = none := by
  cases gate <;> cases m <;> simp_all [lookEnd?, Move.isWhole]

theorem lookEnd?_look (hg : u.gate? j = some gate) (hs : gate ≠ .scope) :
    u.lookEnd? j (.look k) = none := by
  cases gate <;> simp_all [lookEnd?]

theorem lookEnd?_acquire (hg : u.gate? j = some gate) (hs : gate ≠ .scope) (hp : gate ≠ .permit) :
    u.lookEnd? j (.acquire k) = none := by
  cases gate <;> simp_all [lookEnd?]

end Vain

end Dispatch

end CloudInventory
