import CloudInventory.Pool.Schedule
import CloudInventory.Scan.Basic

/-! The schedule of a scan. Suppliers take their turns in order, each going as far as it can; a
failure ends the round. Then all reads run, and a permit that comes back goes to the supplier that
has waited longest for one. -/

namespace CloudInventory.Scan

/-- The steps a supplier can take in its turn. -/
inductive Turn where
  | call (request : ListRequest) (cursor : Option String)
  | submit
  | await (runner : Nat)
  | over
deriving DecidableEq

def turn (i : Nat) (s : Scan) : Turn :=
  match s.suppliers[i]? with
  | none => .over
  | some p =>
    match p.progress with
    | .listing _ =>
      match s.request? i with
      | some (request, cursor) => .call request cursor
      | none => .over
    | .submitting _ _ => .submit
    | .waiting r => .await r
    | .finished _ => .over

/-- A scan with the suppliers that wait for a permit, longest first. -/
structure Queued where
  scan : Scan
  queue : List Nat

/-- Whether the next submission of a supplier meets neither a permit nor an end of its runner. -/
def mustWait (i : Nat) (q : Queued) : Bool :=
  match q.scan.suppliers[i]? with
  | some ⟨_, .submitting r (_ :: _)⟩ =>
    q.scan.pool.look r (q.scan.pool.isFirst q.queue i) == .pending
  | _ => false

/-- Lets a supplier go on until it has to wait, for at most `fuel` steps. -/
def takeTurn (source : Source) (i : Nat) : Nat → Queued → Queued
  | 0, q => q
  | fuel + 1, q =>
    match turn i q.scan with
    | .over => q
    | .call request cursor =>
      takeTurn source i fuel { q with scan := q.scan.answer i (source.page request cursor) }
    | .submit =>
      if mustWait i q then
        { q with queue := if q.queue.contains i then q.queue else q.queue ++ [i] }
      else
        let free := q.scan.pool.isFirst q.queue i
        takeTurn source i fuel
          { scan := q.scan.submit i free fun args => .ofExcept (source.state args)
            queue := q.queue.erase i }
    | .await r =>
      let scan := q.scan.withPool (q.scan.pool.awaitAll r)
      match scan.pool.settled? r with
      | some _ => { q with scan := scan.await i }
      | none => { q with scan }

/-- The turns of the suppliers from the `i`-th on; a failure ends them. -/
def takeTurns (source : Source) (fuel : Nat) : List Nat → Queued → Queued
  | [], q => q
  | i :: rest, q =>
    let q := takeTurn source i fuel q
    match (q.scan.suppliers[i]?).bind Supplier.result? with
    | some (.error _) => q
    | _ => takeTurns source fuel rest q

/-- Rounds of turns and reads, at most `rounds` of them. -/
def runRounds (source : Source) (fuel : Nat) : Nat → Queued → Queued
  | 0, q => q
  | rounds + 1, q =>
    let q := takeTurns source fuel (List.range q.scan.suppliers.length) q
    match results? q.scan.suppliers with
    | some _ => q
    | none => runRounds source fuel rounds { q with scan := q.scan.withPool (q.scan.pool.runJobs []) }

/-- A whole scan. A pool that was cancelled before makes no call. A scan without an outcome when its
fuel is used up counts as cancelled. -/
def run (source : Source) (fuel : Nat) (s : Scan) : Except Error (List Resource) × Scan :=
  if s.pool.cancelled then conclude (.error .cancelled) s
  else
    let s := (runRounds source fuel fuel ⟨s, []⟩).scan
    conclude ((results? s.suppliers).getD (.error .cancelled)) s

end CloudInventory.Scan
