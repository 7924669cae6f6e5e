import CloudInventory.Inventory
import CloudInventory.Listing
import CloudInventory.Pool.Basic

/-! A scan: one supplier for each resource type, all over one pool and one ledger of alerts. A
supplier lists its type, submits a read for every resource found, waits for them and reads their
states into resources.

Each function below is one step of one supplier; the steps of the reads are those of the pool. -/

namespace CloudInventory

inductive Progress where
  | listing (l : Listing)
  /-- Reads still to be submitted to its runner. -/
  | submitting (runner : Nat) (todo : List ReadArgs)
  | waiting (runner : Nat)
  | finished (result : Except Error (List Resource))

structure Supplier where
  type : ResourceType
  progress : Progress

structure Scan where
  project : String
  pool : Pool State
  alerts : Alerts
  suppliers : List Supplier
  /-- The list calls made so far, and the reads begun. -/
  calls : List (ListRequest × Option String)
  reads : List ReadArgs

structure Source where
  page : ListRequest → Option String → Except Error (Page Json)
  state : ReadArgs → Except Error State

namespace Supplier

def start (t : ResourceType) : Supplier := ⟨t, .listing Listing.start⟩

def result? (s : Supplier) : Option (Except Error (List Resource)) :=
  match s.progress with
  | .finished result => some result
  | _ => none

end Supplier

namespace Scan

def start (project : String) (types : List ResourceType) (pool : Pool State) (alerts : Alerts) :
    Scan :=
  ⟨project, pool, alerts, types.map Supplier.start, [], []⟩

def setProgress (i : Nat) (progress : Progress) (s : Scan) : Scan :=
  { s with suppliers := s.suppliers.modify i fun p => { p with progress } }

def withPool (s : Scan) (pool : Pool State) : Scan := { s with pool }

/-- Ends a supplier with a failure, or with an alert in its place. -/
def fail (i : Nat) (type : String) (e : Error) (alert? : Option Alert) (s : Scan) : Scan :=
  let (result, alerts) := degrade e alert? type s.alerts
  { s.setProgress i (.finished result) with alerts }

/-- A listing that is done opens a runner for its reads. -/
def afterListing (i : Nat) (t : ResourceType) (l : Listing) (s : Scan) : Scan :=
  match l with
  | .done (.ok args) =>
    (s.withPool s.pool.addRunner).setProgress i (.submitting s.pool.runners.length args)
  | .done (.error failure) =>
    s.fail i t.name failure.error (Alert.ofListing? failure.error t.name failure.listed)
  | l => s.setProgress i (.listing l)

def request? (i : Nat) (s : Scan) : Option (ListRequest × Option String) :=
  (s.suppliers[i]?).bind fun p =>
    match p.progress with
    | .listing l => l.request? p.type s.project
    | _ => none

/-- A supplier makes its list call and takes the answer. -/
def answer (i : Nat) (page : Except Error (Page Json)) (s : Scan) : Scan :=
  match s.suppliers[i]?, s.request? i with
  | some ⟨t, .listing l⟩, some call =>
    { s with calls := s.calls ++ [call] }.afterListing i t (l.feed t page)
  | _, _ => s

/-- A supplier submits its next read, `look` telling what the submission meets; past the last it
waits. -/
def submitMeeting (i : Nat) (look : Nat → Pool.Look) (ending : ReadArgs → Ending State)
    (s : Scan) : Scan :=
  match s.suppliers[i]? with
  | some ⟨_, .submitting r []⟩ => (s.withPool (s.pool.startWait r)).setProgress i (.waiting r)
  | some ⟨_, .submitting r (args :: todo)⟩ =>
    match look r with
    | .refused => (s.withPool (s.pool.drop r)).setProgress i (.finished (.error .cancelled))
    | .skipped => s.setProgress i (.submitting r todo)
    | .accepted =>
      let job := ⟨ending args, .none⟩
      { s.withPool (s.pool.accept r job) with reads := s.reads ++ [args] }.setProgress i
        (.submitting r todo)
    | .pending => s
  | _ => s

/-- A submission in one look; `free` tells whether a permit is there for it. -/
def submit (i : Nat) (free : Bool) (ending : ReadArgs → Ending State) (s : Scan) : Scan :=
  s.submitMeeting i (s.pool.look · free) ending

/-- What the reads of a supplier have come to. -/
def settle (i : Nat) (t : ResourceType) (outcome : Except Error (List State)) (s : Scan) : Scan :=
  match outcome with
  | .error e => s.fail i t.name e (Alert.ofReading? e t.name t.definition.forbiddenRead)
  | .ok states =>
    s.setProgress i (.finished ((t.readStates states).map (·.filter Resource.isConfigured)))

def await (i : Nat) (s : Scan) : Scan :=
  match s.suppliers[i]? with
  | some ⟨t, .waiting r⟩ =>
    let s := s.withPool (s.pool.await r)
    match s.pool.settled? r with
    | some outcome => s.settle i t outcome
    | none => s
  | _ => s

def advance (k : Nat) (s : Scan) : Scan := s.withPool (s.pool.advance k)

def cancel (s : Scan) : Scan := s.withPool s.pool.cancel

/-- The first failure among suppliers in their order, or all results once all are there. -/
def results? : List Supplier → Option (Except Error (List (List Resource)))
  | [] => some (.ok [])
  | p :: rest =>
    match p.result? with
    | some (.error e) => some (.error e)
    | some (.ok rs) => (results? rest).map fun all => all.map (rs :: ·)
    | none =>
      match results? rest with
      | some (.error e) => some (.error e)
      | _ => none

/-- The end of a scan: the resources in order, or the failure, which cancels the pool. -/
def conclude (outcome : Except Error (List (List Resource))) (s : Scan) :
    Except Error (List Resource) × Scan :=
  match outcome with
  | .ok results => (.ok (Inventory.sorted results.flatten), s)
  | .error e => (.error e, s.cancel)

end Scan

end CloudInventory
