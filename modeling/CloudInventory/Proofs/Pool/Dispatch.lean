import CloudInventory.Proofs.Pool.Phase
import Mathlib.Logic.Relation

/-! A pool in use: submissions in flight, each of them looking at the pool's cancellation, at its
runner's mark and at the permits, one after another and with anything else in between. Whoever
holds a runner uses it for one thing at a time, so a runner is neither waited for nor dropped
while a submission to it is in flight. -/

namespace CloudInventory

structure Call (α : Type) where
  runner : Nat
  job : Job α
  gate : Gate

inductive Verdict where
  | refused
  | skipped
  | accepted (ticket : Nat)
deriving DecidableEq

/-- Whether the submission is told that all is well, which it is also when it was passed over. -/
def Verdict.isOk : Verdict → Bool
  | .refused => false
  | .skipped | .accepted _ => true

structure Answer (α : Type) where
  runner : Nat
  job : Job α
  verdict : Verdict

def Answer.task? (x : Answer α) : Option ((Nat × Job α) × Nat) :=
  match x.verdict with
  | .accepted n => some ((x.runner, x.job), n)
  | _ => none

structure Dispatch (α : Type) where
  pool : Pool α
  calls : List (Call α)
  answers : List (Answer α)
  log : Pool.Log α

namespace Dispatch

inductive Move (α : Type) where
  | openRunner
  | call (i : Nat) (job : Job α)
  | enter (k : Nat)
  | look (k : Nat)
  | acquire (k : Nat)
  | abandon (k : Nat)
  | advance (k : Nat)
  | startWait (i : Nat)
  | await (i : Nat)
  | drop (i : Nat)
  | cancel

def start (limit : Nat) : Dispatch α := ⟨Pool.new limit, [], [], .empty⟩

def perform (m : Pool.Act α) (u : Dispatch α) : Dispatch α :=
  { u with pool := u.pool.act m, log := u.log.note m u.pool }

def answer (k : Nat) (c : Call α) (verdict : Verdict) (u : Dispatch α) : Dispatch α :=
  { u with calls := u.calls.eraseIdx k, answers := u.answers ++ [⟨c.runner, c.job, verdict⟩] }

def goTo (k : Nat) (gate : Gate) (u : Dispatch α) : Dispatch α :=
  { u with calls := u.calls.modify k fun c => { c with gate := gate } }

def lookAt (k : Nat) (c : Call α) (u : Dispatch α) : Dispatch α :=
  if u.pool.isClosed c.runner then u.answer k c .skipped else u.goTo k .permit

/-- A submission that finds no permit starts again with the pool's cancellation. -/
def acquireAt (k : Nat) (c : Call α) (u : Dispatch α) : Dispatch α :=
  if 0 < u.pool.free then
    (u.answer k c (.accepted u.log.accepted.length)).perform (.accept c.runner c.job)
  else u.goTo k .scope

def take : Move α → Dispatch α → Dispatch α
  | .openRunner, u => u.perform .addRunner
  | .call i job, u => { u with calls := u.calls ++ [⟨i, job, .scope⟩] }
  | .enter k, u =>
    match u.calls[k]? with
    | none => u
    | some c => if u.pool.cancelled then u.answer k c .refused else u.goTo k .mark
  | .look k, u =>
    match u.calls[k]? with
    | none => u
    | some c => if c.gate = .mark then u.lookAt k c else u
  | .acquire k, u =>
    match u.calls[k]? with
    | none => u
    | some c => if c.gate = .permit then u.acquireAt k c else u
  | .abandon k, u => { u with calls := u.calls.eraseIdx k }
  | .advance k, u => u.perform (.advance k)
  | .startWait i, u => u.perform (.startWait i)
  | .await i, u => u.perform (.await i)
  | .drop i, u => u.perform (.drop i)
  | .cancel, u => u.perform .cancel

def IsIdle (i : Nat) (u : Dispatch α) : Prop := ∀ c ∈ u.calls, c.runner ≠ i

def Allows : Move α → Dispatch α → Prop
  | .call i _, u => u.pool.phase? i = some .collecting ∧ u.IsIdle i
  | .startWait i, u => u.pool.phase? i = some .collecting ∧ u.IsIdle i
  | .drop i, u =>
    (u.pool.phase? i = some .collecting ∨ u.pool.phase? i = some .waiting) ∧ u.IsIdle i
  | _, _ => True

def Step (u v : Dispatch α) : Prop := ∃ m, u.Allows m ∧ u.take m = v

/-- The states of a pool of this limit in any use of it. -/
def Reached (limit : Nat) (u : Dispatch α) : Prop :=
  Relation.ReflTransGen Step (start limit) u

def play (ms : List (Move α)) (u : Dispatch α) : Dispatch α := ms.foldl (fun u m => u.take m) u

def Plays : List (Move α) → Dispatch α → Prop
  | [], _ => True
  | m :: ms, u => u.Allows m ∧ Plays ms (u.take m)

theorem reaches_play {ms : List (Move α)} {u : Dispatch α} (h : Plays ms u) :
    Relation.ReflTransGen Step u (u.play ms) := by
  induction ms generalizing u with
  | nil => exact .refl
  | cons m ms ih => exact .head ⟨m, h.1, rfl⟩ (ih h.2)

section Decidable

variable [DecidableEq α]

deriving instance DecidableEq for Phase

instance (i : Nat) (u : Dispatch α) : Decidable (u.IsIdle i) :=
  inferInstanceAs (Decidable (∀ c ∈ u.calls, c.runner ≠ i))

instance : (m : Move α) → (u : Dispatch α) → Decidable (u.Allows m)
  | .call i _, u | .startWait i, u =>
    inferInstanceAs (Decidable (u.pool.phase? i = some .collecting ∧ u.IsIdle i))
  | .drop i, u => inferInstanceAs (Decidable
    ((u.pool.phase? i = some .collecting ∨ u.pool.phase? i = some .waiting) ∧ u.IsIdle i))
  | .openRunner, _ | .enter _, _ | .look _, _ | .acquire _, _ | .abandon _, _ | .advance _, _
  | .await _, _ | .cancel, _ => .isTrue trivial

instance decidablePlays : (ms : List (Move α)) → (u : Dispatch α) → Decidable (Plays ms u)
  | [], _ => .isTrue trivial
  | m :: ms, u => @instDecidableAnd _ _ inferInstance (decidablePlays ms (u.take m))

end Decidable

end Dispatch

end CloudInventory
