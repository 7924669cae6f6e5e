import CloudInventory.Scan.Basic
import CloudInventory.Proofs.Listing.Standing
import CloudInventory.Proofs.Pool.Accounts
import Mathlib.Logic.Relation

/-! A scan in use, with a log of what it has heard, begun and sent. Its suppliers take their steps
in any order, and so do their reads; the answers of the services are whatever they are. -/

namespace CloudInventory

/-- A read that a supplier has begun, and how it ends. -/
structure Read where
  supplier : Nat
  runner : Nat
  args : ReadArgs
  ending : Ending State

def Read.task (b : Read) : Nat × Job State := (b.runner, ⟨b.ending, .none⟩)

namespace Scan

structure Log where
  heard : List (Nat × Exchange)
  /-- The suppliers by the numbers of their runners. -/
  opened : List Nat
  begun : List Read
  /-- The alerts by the suppliers that sent them, each under its type. -/
  sent : List (Nat × (String × Alert))
  pool : Pool.Log State

namespace Log

def empty : Log := ⟨[], [], [], [], .empty⟩

def heardBy (i : Nat) (l : Log) : List Exchange := ownedBy i l.heard

def begunBy (i : Nat) (l : Log) : List Read := l.begun.filter (·.supplier == i)

def sentBy (i : Nat) (l : Log) : List (String × Alert) := ownedBy i l.sent

def note (m : Pool.Act State) (p : Pool State) (l : Log) : Log :=
  { l with pool := l.pool.note m p }

def openRunner (i : Nat) (p : Pool State) (l : Log) : Log :=
  { l.note .addRunner p with opened := l.opened ++ [i] }

def hear (i : Nat) (x : Exchange) (l : Log) : Log := { l with heard := l.heard ++ [(i, x)] }

def begin (b : Read) (l : Log) : Log := { l with begun := l.begun ++ [b] }

def send (i : Nat) (type : String) (alert? : Option Alert) (l : Log) : Log :=
  { l with sent := l.sent ++ alert?.toList.map fun alert => (i, (type, alert)) }

def answered (i : Nat) (page : Except Error (Page Json)) (s : Scan) (l : Log) : Log :=
  match s.suppliers[i]?, s.request? i with
  | some ⟨t, .listing listing⟩, some call =>
    let l := l.hear i (call, page)
    match listing.feed t page with
    | .done (.ok _) => l.openRunner i s.pool
    | .done (.error f) => l.send i t.name (Alert.ofListing? f.error t.name f.listed)
    | _ => l
  | _, _ => l

def submitted (i : Nat) (look : Nat → Pool.Look) (ending : Ending State) (s : Scan) (l : Log) :
    Log :=
  match s.suppliers[i]? with
  | some ⟨_, .submitting r []⟩ => l.note (.startWait r) s.pool
  | some ⟨_, .submitting r (args :: _)⟩ =>
    match look r with
    | .refused => l.note (.drop r) s.pool
    | .accepted => (l.note (.accept r ⟨ending, .none⟩) s.pool).begin ⟨i, r, args, ending⟩
    | _ => l
  | _ => l

def awaited (i : Nat) (s : Scan) (l : Log) : Log :=
  match s.suppliers[i]? with
  | some ⟨t, .waiting r⟩ =>
    let l := l.note (.await r) s.pool
    match (s.pool.await r).settled? r with
    | some (.error e) => l.send i t.name (Alert.ofReading? e t.name t.definition.forbiddenRead)
    | _ => l
  | _ => l

section Entries

variable {l : Log} {i j : Nat} {m : Pool.Act State} {p : Pool State}

@[simp] theorem heardBy_note : (l.note m p).heardBy j = l.heardBy j := rfl

@[simp] theorem begunBy_note : (l.note m p).begunBy j = l.begunBy j := rfl

@[simp] theorem sentBy_note : (l.note m p).sentBy j = l.sentBy j := rfl

@[simp] theorem heardBy_openRunner : (l.openRunner i p).heardBy j = l.heardBy j := rfl

@[simp] theorem begunBy_openRunner : (l.openRunner i p).begunBy j = l.begunBy j := rfl

@[simp] theorem sentBy_openRunner : (l.openRunner i p).sentBy j = l.sentBy j := rfl

@[simp] theorem heardBy_hear (x : Exchange) :
    (l.hear i x).heardBy j = l.heardBy j ++ if i = j then [x] else [] := by
  by_cases h : i = j <;> simp [hear, heardBy, h]

@[simp] theorem begunBy_hear (x : Exchange) : (l.hear i x).begunBy j = l.begunBy j := rfl

@[simp] theorem sentBy_hear (x : Exchange) : (l.hear i x).sentBy j = l.sentBy j := rfl

@[simp] theorem heardBy_begin (b : Read) : (l.begin b).heardBy j = l.heardBy j := rfl

@[simp] theorem begunBy_begin (b : Read) :
    (l.begin b).begunBy j = l.begunBy j ++ if b.supplier = j then [b] else [] := by
  by_cases h : b.supplier = j <;> simp [begin, begunBy, h]

@[simp] theorem sentBy_begin (b : Read) : (l.begin b).sentBy j = l.sentBy j := rfl

variable {type : String} {alert? : Option Alert}

@[simp] theorem heardBy_send : (l.send i type alert?).heardBy j = l.heardBy j := rfl

@[simp] theorem begunBy_send : (l.send i type alert?).begunBy j = l.begunBy j := rfl

@[simp] theorem sentBy_send : (l.send i type alert?).sentBy j =
    l.sentBy j ++ if i = j then alert?.toList.map (type, ·) else [] := by
  by_cases h : i = j <;> cases alert? <;> simp [send, sentBy, h]

end Entries

end Log

end Scan

structure Survey where
  scan : Scan
  log : Scan.Log

namespace Survey

inductive Move where
  | answer (i : Nat) (page : Except Error (Page Json))
  /-- A submission that has come to `gate`, or a wait where nothing is left to submit. -/
  | submit (i : Nat) (gate : Gate) (free : Bool) (ending : Ending State)
  | await (i : Nat)
  | advance (k : Nat)
  | cancel

def start (project : String) (types : List ResourceType) (limit : Nat) (alerts : Alerts) : Survey :=
  ⟨Scan.start project types (Pool.new limit) alerts, .empty⟩

def take : Move → Survey → Survey
  | .answer i page, u => ⟨u.scan.answer i page, u.log.answered i page u.scan⟩
  | .submit i gate free ending, u =>
    ⟨u.scan.submitMeeting i (u.scan.pool.lookFrom gate · free) fun _ => ending,
      u.log.submitted i (u.scan.pool.lookFrom gate · free) ending u.scan⟩
  | .await i, u => ⟨u.scan.await i, u.log.awaited i u.scan⟩
  | .advance k, u => ⟨u.scan.advance k, u.log.note (.advance k) u.scan.pool⟩
  | .cancel, u => ⟨u.scan.cancel, u.log.note .cancel u.scan.pool⟩

/-- A permit is there for a submission only if the pool has one. -/
def Allows : Move → Survey → Prop
  | .submit _ _ free _, u => free = true → 0 < u.scan.pool.free
  | _, _ => True

def Step (u v : Survey) : Prop := ∃ m, u.Allows m ∧ u.take m = v

/-- The states of a scan of these types, whatever the services answer and in any order of steps. -/
def Reached (project : String) (types : List ResourceType) (limit : Nat) (alerts : Alerts)
    (u : Survey) : Prop :=
  Relation.ReflTransGen Step (start project types limit alerts) u

def play (ms : List Move) (u : Survey) : Survey := ms.foldl (fun u m => u.take m) u

def Plays : List Move → Survey → Prop
  | [], _ => True
  | m :: ms, u => u.Allows m ∧ Plays ms (u.take m)

theorem reaches_play {ms : List Move} {u : Survey} (h : Plays ms u) :
    Relation.ReflTransGen Step u (u.play ms) := by
  induction ms generalizing u with
  | nil => exact .refl
  | cons m ms ih => exact .head ⟨m, h.1, rfl⟩ (ih h.2)

instance : (m : Move) → (u : Survey) → Decidable (u.Allows m)
  | .submit _ _ free _, u => inferInstanceAs (Decidable (free = true → 0 < u.scan.pool.free))
  | .answer _ _, _ | .await _, _ | .advance _, _ | .cancel, _ => .isTrue trivial

instance decidablePlays : (ms : List Move) → (u : Survey) → Decidable (Plays ms u)
  | [], _ => .isTrue trivial
  | m :: ms, u => @instDecidableAnd _ _ inferInstance (decidablePlays ms (u.take m))

end Survey

end CloudInventory
