import CloudInventory.Pool.Basic
import CloudInventory.Proofs.Positions

/-! What a pool has done. The log of a pool lists the jobs it has accepted, tells which of them
hold a permit and which have ended, and keeps every error that was recorded, also those that a
runner discards. A job is known by its ticket, its place among the accepted ones. -/

namespace CloudInventory

/-- What a submission looks at next: the pool's cancellation, its runner's mark or the permits. -/
inductive Gate where
  | scope
  | mark
  | permit
deriving DecidableEq

namespace Pool

/-- The rest of a look that has come to `gate`. -/
def lookFrom (gate : Gate) (i : Nat) (free : Bool) (p : Pool α) : Look :=
  match gate with
  | .scope => p.look i free
  | .mark => p.lookWithin i free
  | .permit => if free then .accepted else .pending

inductive Act (α : Type) where
  | addRunner
  | accept (i : Nat) (job : Job α)
  | advance (k : Nat)
  | startWait (i : Nat)
  | await (i : Nat)
  | drop (i : Nat)
  | cancel

def act : Act α → Pool α → Pool α
  | .addRunner, p => p.addRunner
  | .accept i job, p => p.accept i job
  | .advance k, p => p.advance k
  | .startWait i, p => p.startWait i
  | .await i, p => p.await i
  | .drop i, p => p.drop i
  | .cancel, p => p.cancel

def phase? (i : Nat) (p : Pool α) : Option (Phase α) := (p.runners[i]?).map (·.phase)

/-- A runner takes jobs until its owner waits for it or gives it up, each of them once; a job is
accepted where a permit is free. -/
def Allows : Act α → Pool α → Prop
  | .accept i _, p => p.phase? i = some .collecting ∧ 0 < p.free
  | .startWait i, p => p.phase? i = some .collecting
  | .drop i, p => p.phase? i = some .collecting ∨ p.phase? i = some .waiting
  | _, _ => True

structure Log (α : Type) where
  accepted : List (Nat × Job α)
  /-- The tickets of the active jobs, in the order of these. -/
  running : List Nat
  ended : List Nat
  recorded : List (Nat × Error)

namespace Log

def empty : Log α := ⟨[], [], [], []⟩

def tasks (tickets : List Nat) (l : Log α) : List (Nat × Job α) :=
  tickets.filterMap (l.accepted[·]?)

def acceptedBy (i : Nat) (l : Log α) : List (Job α) := ownedBy i l.accepted

def endedOf (i : Nat) (l : Log α) : List (Job α) := ownedBy i (l.tasks l.ended)

def errorsOf (i : Nat) (l : Log α) : List Error := ownedBy i l.recorded

def accept (i : Nat) (job : Job α) (l : Log α) : Log α :=
  { l with accepted := l.accepted ++ [(i, job)], running := l.running ++ [l.accepted.length] }

def record (i : Nat) (e : Error) (l : Log α) : Log α :=
  { l with recorded := l.recorded ++ [(i, e)] }

def finish (k : Nat) (l : Log α) : Log α :=
  { l with running := l.running.eraseIdx k, ended := l.ended ++ (l.running[k]?).toList }

/-- A panic is recorded by the wait that takes it in. -/
def joined (i : Nat) : Option (Ending α) → Log α → Log α
  | some (.panic report), l => l.record i (.task report)
  | _, l => l

end Log

/-- The ending that the next look of a wait takes in. -/
def joins? (i : Nat) (p : Pool α) : Option (Ending α) :=
  (p.runners[i]?).bind fun r =>
    match r.phase with
    | .waiting => if p.cancelled then none else r.endings[r.joined]?
    | _ => none

def Log.advanced (k : Nat) (p : Pool α) (l : Log α) : Log α :=
  match p.active[k]? with
  | none => l
  | some a =>
    match a.next with
    | .record e => l.record a.owner e
    | .mark => l
    | .release => l.finish k

def Log.note : Act α → Pool α → Log α → Log α
  | .accept i job, _, l => l.accept i job
  | .advance k, p, l => l.advanced k p
  | .await i, p, l => l.joined i (p.joins? i)
  | _, _, l => l

structure RunnerSound (l : Log α) (p : Pool α) (i : Nat) (r : Runner α) : Prop where
  submitted : r.submitted = (l.acceptedBy i).length
  endings : r.endings = (l.endedOf i).map Job.ending
  first : r.firstError = (l.errorsOf i).head?
  failed : r.failed = true → l.errorsOf i ≠ []
  failures : ∀ e, .failure e ∈ r.endings → l.errorsOf i ≠ []
  panics : ∀ report, .panic report ∈ r.endings.take r.joined → l.errorsOf i ≠ []
  joined : r.joined ≤ r.endings.length
  /-- A wait ends with the pool's cancellation, or once all has ended and has been taken in. -/
  settled : ∀ outcome, r.phase = .settled outcome →
    outcome = .error .cancelled ∧ p.cancelled = true ∨
      outcome = r.outcome ∧ r.joined = r.endings.length ∧ ∀ a ∈ p.active, a.owner ≠ i

structure Sound (limit : Nat) (l : Log α) (p : Pool α) : Prop where
  limit : p.limit = clamp limit
  permits : p.free + p.active.length = p.limit
  tasks : l.running.map (l.accepted[·]?) = p.active.map fun a => some (a.owner, a.job)
  once : (l.ended ++ l.running).Perm (List.range l.accepted.length)
  owners : ∀ x ∈ l.accepted, x.1 < p.runners.length
  recorders : ∀ x ∈ l.recorded, x.1 < p.runners.length
  stages : ∀ a ∈ p.active, a.stage ≠ .running → l.errorsOf a.owner ≠ []
  runners : ∀ i r, p.runners[i]? = some r → RunnerSound l p i r

end Pool

end CloudInventory
