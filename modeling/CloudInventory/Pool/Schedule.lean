import CloudInventory.Pool.Basic

/-! The schedule in which a pool's steps are taken: jobs run one after another in the order of
their acceptance, each as far as it can, and a permit that comes back goes to the submission that
has waited longest. -/

namespace CloudInventory.Pool

def isOpen (gates : List String) (job : Job α) : Bool :=
  match job.hold with
  | .none => true
  | .gate name => gates.contains name
  | .forever => false

/-- Steps of the first job that nothing holds, at most `fuel` of them. -/
def runJobsFor (gates : List String) : Nat → Pool α → Pool α
  | 0, p => p
  | fuel + 1, p =>
    match p.active.findIdx? fun a => isOpen gates a.job with
    | none => p
    | some k => runJobsFor gates fuel (p.advance k)

/-- No job takes more than three steps. -/
def runJobs (gates : List String) (p : Pool α) : Pool α :=
  runJobsFor gates (3 * p.active.length) p

/-- Looks of a wait until it has nothing to take in. -/
def awaitFor (i : Nat) : Nat → Pool α → Pool α
  | 0, p => p
  | fuel + 1, p => awaitFor i fuel (p.await i)

def awaitAll (i : Nat) (p : Pool α) : Pool α :=
  match p.runners[i]? with
  | none => p
  | some r => p.awaitFor i (r.endings.length - r.joined + 1)

/-- Whether a permit is there for a submission: fewer wait before it than permits are free. -/
def isFirst (queue : List Nat) (i : Nat) (p : Pool α) : Bool :=
  (queue.idxOf i) < p.free

end CloudInventory.Pool
