import CloudInventory.Dict
import CloudInventory.Error

/-! Alerts: notices about a resource type that a scan had to leave out. They are only ever added,
and keep the order in which they were sent within their type. -/

namespace CloudInventory

structure Alert where
  message : String
  /-- The type contributed nothing and is to be left out of comparisons. -/
  ignoresType : Bool
deriving DecidableEq, Repr

abbrev Alerts := Dict (List Alert)

namespace Alerts

def empty : Alerts := []

def send (type : String) (alert : Alert) (alerts : Alerts) : Alerts :=
  Dict.update type [] (· ++ [alert]) alerts

def of (type : String) (alerts : Alerts) : List Alert := (Dict.find? type alerts).getD []

def ignoresSomeType (alerts : Alerts) : Bool := alerts.any fun e => e.2.any (·.ignoresType)

end Alerts

inductive ForbiddenRead where
  /-- Permissions hold for the whole project: the type is left out. -/
  | ignoreType
  /-- Permissions hold for one resource: the scan fails. -/
  | fail
deriving DecidableEq, Repr

namespace Alert

def ignoring (type : String) : String := s!"Ignoring {type} from drift calculation"

/-- A refused listing, of the type itself or of the type it is enumerated through. -/
def listingRefused (type : String) (listed : Option String) : Alert :=
  match listed with
  | some other =>
    if other = type then ⟨s!"{ignoring type}: Listing {type} is forbidden.", true⟩
    else ⟨s!"{ignoring type}. Listing {other} is forbidden.", true⟩
  | none => ⟨s!"{ignoring type}: Listing {type} is forbidden.", true⟩

def readingRefused (type : String) : Alert :=
  ⟨s!"{ignoring type}: Reading {type} is forbidden.", true⟩

def ofListing? (e : Error) (type : String) (listed : Option String) : Option Alert :=
  if e.isForbidden then some (listingRefused type listed) else none

/-- The alert that stands for a failed read, if it is a refusal and the policy allows it. -/
def ofReading? (e : Error) (type : String) (policy : ForbiddenRead) : Option Alert :=
  if policy = .ignoreType ∧ e.isForbidden then some (readingRefused type) else none

end Alert

/-- A failure with an alert in its place leaves its type empty; any other stands. -/
def degrade (e : Error) (alert? : Option Alert) (type : String) (alerts : Alerts) :
    Except Error (List α) × Alerts :=
  match alert? with
  | some alert => (.ok [], alerts.send type alert)
  | none => (.error e, alerts)

end CloudInventory
