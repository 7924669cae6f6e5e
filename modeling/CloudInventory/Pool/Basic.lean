import CloudInventory.Error

/-! A pool bounds the number of jobs that run at one time, over all its runners. A runner
collects the results of its own jobs: the first error wins, and once a job has failed the
runner takes no more of them. Cancelling the pool ends every submission and every wait, and
leaves the jobs that run alone.

Each function below is one step of the pool. A job that fails records its error, marks its
runner and gives its permit back in three steps, between which others may come. -/

namespace CloudInventory

inductive Ending (α : Type) where
  | value (a : α)
  | failure (e : Error)
  /-- What is reported of a panic. -/
  | panic (report : String)
deriving DecidableEq, Repr

namespace Ending

def ofExcept : Except Error α → Ending α
  | .ok a => .value a
  | .error e => .failure e

def value? : Ending α → Option α
  | .value a => some a
  | _ => none

def isPanic : Ending α → Bool
  | .panic _ => true
  | _ => false

end Ending

inductive Hold where
  | none
  | gate (name : String)
  | forever
deriving DecidableEq, Repr

structure Job (α : Type) where
  ending : Ending α
  hold : Hold
deriving DecidableEq, Repr

inductive Stage where
  | running
  /-- Failed, its error recorded. -/
  | recorded
  /-- Failed, its error recorded and its runner marked. -/
  | marked
deriving DecidableEq, Repr

/-- A job that holds a permit. -/
structure Active (α : Type) where
  owner : Nat
  job : Job α
  stage : Stage
deriving DecidableEq, Repr

inductive Next where
  | record (e : Error)
  | mark
  | release
deriving DecidableEq, Repr

/-- Only a failed job has to do with its runner before it gives its permit back. -/
def Active.next (a : Active α) : Next :=
  match a.stage, a.job.ending with
  | .running, .failure e => .record e
  | .running, _ => .release
  | .recorded, _ => .mark
  | .marked, _ => .release

inductive Phase (α : Type) where
  | collecting
  | waiting
  | settled (outcome : Except Error (List α))
  /-- Given up without a wait. -/
  | dropped

structure Runner (α : Type) where
  firstError : Option Error
  /-- Whether a failure has been noticed. -/
  failed : Bool
  submitted : Nat
  /-- How its jobs ended, in the order of their endings. -/
  endings : List (Ending α)
  /-- The number of endings that the wait has taken in. -/
  joined : Nat
  phase : Phase α

structure Pool (α : Type) where
  limit : Nat
  free : Nat
  cancelled : Bool
  /-- The jobs that hold a permit, in the order of their acceptance. -/
  active : List (Active α)
  runners : List (Runner α)

namespace Runner

def new : Runner α := ⟨none, false, 0, [], 0, .collecting⟩

def record (e : Error) (r : Runner α) : Runner α :=
  { r with firstError := r.firstError.or (some e) }

def mark (r : Runner α) : Runner α := { r with failed := true }

def accepted (r : Runner α) : Runner α := { r with submitted := r.submitted + 1 }

def ended (ending : Ending α) (r : Runner α) : Runner α :=
  { r with endings := r.endings ++ [ending] }

/-- Takes in the next ending; a panic counts as an error from here on. -/
def join (r : Runner α) : Runner α :=
  match r.endings[r.joined]? with
  | none => r
  | some (.panic report) => { (r.record (.task report)).mark with joined := r.joined + 1 }
  | some _ => { r with joined := r.joined + 1 }

def values (r : Runner α) : List α := r.endings.filterMap Ending.value?

def outcome (r : Runner α) : Except Error (List α) :=
  match r.firstError with
  | some e => .error e
  | none => .ok r.values

def inPhase (phase : Phase α) (r : Runner α) : Runner α := { r with phase := phase }

end Runner

namespace Pool

def defaultLimit : Nat := 10

/-- The most permits a pool can have. -/
def maxPermits : Nat := 2305843009213693951

/-- A pool has at least one permit. -/
def clamp (limit : Nat) : Nat := max 1 limit

def new (limit : Nat) : Pool α := ⟨clamp limit, clamp limit, false, [], []⟩

def new? (limit : Nat) : Option (Pool α) := if clamp limit ≤ maxPermits then some (new limit) else none

def cancel (p : Pool α) : Pool α := { p with cancelled := true }

/-- The new runner's number is that of the runners before it. -/
def addRunner (p : Pool α) : Pool α := { p with runners := p.runners ++ [Runner.new] }

def modifyRunner (i : Nat) (f : Runner α → Runner α) (p : Pool α) : Pool α :=
  { p with runners := p.runners.modify i f }

def hasFailed (i : Nat) (p : Pool α) : Bool := (p.runners[i]?).any (·.failed)

def accept (i : Nat) (job : Job α) (p : Pool α) : Pool α :=
  { p.modifyRunner i Runner.accepted with
    free := p.free - 1
    active := p.active ++ [⟨i, job, .running⟩] }

inductive Look where
  /-- The pool is cancelled. -/
  | refused
  /-- The runner has failed: the job is passed over. -/
  | skipped
  | accepted
  | pending
deriving DecidableEq, Repr

/-- Whether a runner takes no more jobs: the pool's cancellation reaches all of its runners. -/
def isClosed (i : Nat) (p : Pool α) : Bool := p.cancelled || p.hasFailed i

/-- The second half of a look, at the runner and the permits; `free` tells whether a permit is
there for the submission. -/
def lookWithin (i : Nat) (free : Bool) (p : Pool α) : Look :=
  if p.isClosed i then .skipped
  else if free then .accepted
  else .pending

/-- One look of a submission, at the pool's cancellation first. -/
def look (i : Nat) (free : Bool) (p : Pool α) : Look :=
  if p.cancelled then .refused else p.lookWithin i free

def submit (i : Nat) (job : Job α) (p : Pool α) : Look × Pool α :=
  match p.look i (0 < p.free) with
  | .accepted => (.accepted, p.accept i job)
  | other => (other, p)

/-- The body of the `k`-th active job ends, and its permit comes back. -/
def release (k : Nat) (a : Active α) (p : Pool α) : Pool α :=
  { p.modifyRunner a.owner (Runner.ended a.job.ending) with
    free := p.free + 1
    active := p.active.eraseIdx k }

def moveTo (k : Nat) (stage : Stage) (p : Pool α) : Pool α :=
  { p with active := p.active.modify k fun a => { a with stage := stage } }

def advance (k : Nat) (p : Pool α) : Pool α :=
  match p.active[k]? with
  | none => p
  | some a =>
    match a.next with
    | .record e => (p.modifyRunner a.owner (Runner.record e)).moveTo k .recorded
    | .mark => (p.modifyRunner a.owner Runner.mark).moveTo k .marked
    | .release => p.release k a

def startWait (i : Nat) (p : Pool α) : Pool α := p.modifyRunner i (·.inPhase .waiting)

def drop (i : Nat) (p : Pool α) : Pool α := p.modifyRunner i (·.inPhase .dropped)

def hasActive (i : Nat) (p : Pool α) : Bool := p.active.any fun a => a.owner == i

/-- One look of a wait: at the pool first, then at the next ending, then at what still runs. -/
def await (i : Nat) (p : Pool α) : Pool α :=
  match p.runners[i]? with
  | none => p
  | some r =>
    match r.phase with
    | .waiting =>
      if p.cancelled then p.modifyRunner i (·.inPhase (.settled (.error .cancelled)))
      else if r.joined < r.endings.length then p.modifyRunner i Runner.join
      else if p.hasActive i then p
      else p.modifyRunner i (·.inPhase (.settled r.outcome))
    | _ => p

def settled? (i : Nat) (p : Pool α) : Option (Except Error (List α)) :=
  (p.runners[i]?).bind fun r =>
    match r.phase with
    | .settled outcome => some outcome
    | _ => none

end Pool

end CloudInventory
