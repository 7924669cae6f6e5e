import CloudInventory.Page
import CloudInventory.Resource.Dns
import CloudInventory.ResourceType

/-! Listings of a type: the list calls that find its resources, one after another, each answered
before the next is made. Most types have a listing of their own; record sets and account keys are
listed for one parent after another, once the parents are known. The first call that fails, and
the first item that does not identify a resource, end the listing with nothing found. -/

namespace CloudInventory

structure Nesting where
  parent : ResourceType
  /-- The field of a parent that names it. -/
  parentField : String
  /-- The placeholder and attribute that hold the parent's name. -/
  parentKey : String

def ResourceType.nesting? : ResourceType → Option Nesting
  | .dnsRecordSet => some ⟨.dnsManagedZone, "name", "managedZone"⟩
  | .serviceAccountKey => some ⟨.serviceAccount, "email", "serviceAccount"⟩
  | _ => none

/-- A failed list call stands for the type that was to be listed, or for the one before it. -/
structure ListingFailure where
  error : Error
  listed : Option String

inductive Listing where
  /-- Walking the type's own listing, or that of its parents. -/
  | first (walk : Walk Json)
  /-- Walking the listing of one parent, with the parents still to come. -/
  | below (parent : String) (others : List Json) (walk : Walk Json) (found : List ReadArgs)
  | done (outcome : Except ListingFailure (List ReadArgs))

namespace Listing

def start : Listing := .first Walk.start

def failed (e : Error) (listed : Option String) : Listing := .done (.error ⟨e, listed⟩)

def firstDefinition (t : ResourceType) : Definition :=
  match t.nesting? with
  | some n => n.parent.definition
  | none => t.definition

/-- An item's identifier where its own name does not tell it apart. -/
def childId (t : ResourceType) (parent : String) (item : Json) (id : String) : Except Error String :=
  match t with
  | .dnsRecordSet => do
    let name ← itemField item "name" t.name
    let type ← itemField item "type" t.name
    return recordSetId parent name type
  | _ => .ok id

def childArgs (t : ResourceType) (n : Nesting) (parent : String) (item : Json) :
    Except Error ReadArgs := do
  let args ← t.definition.readArgs t.name item
  let id ← childId t parent item args.id
  return { args with id, attributes := Dict.insert n.parentKey parent args.attributes }

/-- All items, or the first fault among them. -/
def identifyAll (identify : Json → Except Error ReadArgs) :
    List Json → Except Error (List ReadArgs)
  | [] => .ok []
  | item :: items => do
    let args ← identify item
    let others ← identifyAll identify items
    return args :: others

def nextParent (n : Nesting) (found : List ReadArgs) : List Json → Listing
  | [] => .done (.ok found)
  | parent :: others =>
    match itemField parent n.parentField n.parent.name with
    | .error e => failed e none
    | .ok name => .below name others Walk.start found

def afterFirst (t : ResourceType) : Walk Json → Listing
  | .stopped (.error e) => failed e t.definition.requires
  | .stopped (.ok items) =>
    match t.nesting? with
    | some n => nextParent n [] items
    | none =>
      match identifyAll (t.definition.readArgs t.name) items with
      | .error e => failed e none
      | .ok args => .done (.ok args)
  | walk => .first walk

def afterBelow (t : ResourceType) (n : Nesting) (parent : String) (others : List Json)
    (found : List ReadArgs) : Walk Json → Listing
  | .stopped (.error e) => failed e none
  | .stopped (.ok items) =>
    match identifyAll (childArgs t n parent) items with
    | .error e => failed e none
    | .ok args => nextParent n (found ++ args) others
  | walk => .below parent others walk found

/-- The answer to one call: a page of the walk at hand, or all there is. -/
def turn (d : Definition) (answer : Except Error (Page Json)) (walk : Walk Json) : Walk Json :=
  if d.paged then walk.feed answer else Walk.single answer

def request? (t : ResourceType) (project : String) : Listing → Option (ListRequest × Option String)
  | .first (.asking cursor _ _) => some ((firstDefinition t).listRequest project [], cursor)
  | .below parent _ (.asking cursor _ _) _ =>
    match t.nesting? with
    | some n => some (t.definition.listRequest project [(n.parentKey, parent)], cursor)
    | none => none
  | _ => none

def feed (t : ResourceType) (answer : Except Error (Page Json)) : Listing → Listing
  | .first walk => afterFirst t (turn (firstDefinition t) answer walk)
  | .below parent others walk found =>
    match t.nesting? with
    | some n => afterBelow t n parent others found (turn t.definition answer walk)
    | none => .below parent others walk found
  | .done outcome => .done outcome

end Listing

end CloudInventory
