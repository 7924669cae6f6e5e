import CloudInventory.Pool.Schedule

/-! The use of a pool step by step, with named runners and with gates that hold jobs back. After
every step the jobs run as far as they can. A submission or a wait that cannot end is given up:
the job never runs, and the runner is lost. -/

namespace CloudInventory.Pool

structure Session (α : Type) where
  pool : Pool α
  /-- The runners in use, by name. -/
  names : List (String × Nat)
  gates : List String

inductive Reply (α : Type) where
  | done
  | submitted
  | values (vs : List α)
  | failed (e : Error)
  | blocked
  | noRunner

inductive Step (α : Type) where
  | open (gate : String)
  | cancel
  | create (runner : String)
  | submit (runner : String) (jobs : List (Job α))
  | wait (runner : String)
  | drop (runner : String)

namespace Session

def new (pool : Pool α) : Session α := ⟨pool, [], []⟩

def runner? (name : String) (s : Session α) : Option Nat := s.names.lookup name

def forget (name : String) (s : Session α) : Session α :=
  { s with names := s.names.filter fun e => e.1 ≠ name }

def run (s : Session α) : Session α := { s with pool := s.pool.runJobs s.gates }

/-- Submits a job; where no permit is free the jobs run first. -/
def submitOne (i : Nat) (job : Job α) (s : Session α) : Look × Session α :=
  match s.pool.submit i job with
  | (.pending, _) =>
    let s := s.run
    let (look, pool) := s.pool.submit i job
    (look, { s with pool })
  | (look, pool) => (look, { s with pool })

/-- Stops at the first job that is neither accepted nor passed over. -/
def submitEach (i : Nat) : List (Job α) → Session α → Reply α × Session α
  | [], s => (.submitted, s)
  | job :: jobs, s =>
    match s.submitOne i job with
    | (.refused, s) => (.failed .cancelled, s)
    | (.pending, s) => (.blocked, s)
    | (_, s) => submitEach i jobs s

def waitFor (name : String) (i : Nat) (s : Session α) : Reply α × Session α :=
  let s := { s with pool := s.pool.startWait i }.run
  let pool := s.pool.awaitAll i
  let s := { s with pool }.forget name
  match pool.settled? i with
  | some (.ok vs) => (.values vs, s)
  | some (.error e) => (.failed e, s)
  | none => (.blocked, { s with pool := s.pool.drop i })

def dropNamed (name : String) (i : Nat) (s : Session α) : Session α :=
  { s.forget name with pool := s.pool.drop i }

/-- A runner takes the place of one of the same name. -/
def create (name : String) (s : Session α) : Session α :=
  let s := match s.runner? name with
    | some i => s.dropNamed name i
    | none => s
  { s with pool := s.pool.addRunner, names := (name, s.pool.runners.length) :: s.names }

def onRunner (name : String) (s : Session α) (f : Nat → Reply α × Session α) :
    Reply α × Session α :=
  match s.runner? name with
  | some i => f i
  | none => (.noRunner, s)

def act (step : Step α) (s : Session α) : Reply α × Session α :=
  match step with
  | .open gate => (.done, { s with gates := gate :: s.gates })
  | .cancel => (.done, { s with pool := s.pool.cancel })
  | .create name => (.done, s.create name)
  | .submit name jobs => s.onRunner name fun i => s.submitEach i jobs
  | .wait name => s.onRunner name fun i => s.waitFor name i
  | .drop name =>
    match s.runner? name with
    | some i => (.done, s.dropNamed name i)
    | none => (.done, s)

def take (step : Step α) (s : Session α) : Reply α × Session α :=
  let (reply, s) := s.act step
  (reply, s.run)

/-- The jobs that the runner of this name has accepted. -/
def submitted? (name : String) (s : Session α) : Option Nat :=
  (s.runner? name).bind fun i => (s.pool.runners[i]?).map (·.submitted)

def started (s : Session α) : Nat := s.pool.runners.foldl (fun n r => n + r.submitted) 0

def finished (s : Session α) : Nat :=
  s.pool.runners.foldl (fun n r => n + r.endings.countP fun e => !e.isPanic) 0

end Session

end CloudInventory.Pool
