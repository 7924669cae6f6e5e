import CloudInventory.Error

/-! Paged listings. A walk asks for pages one after another, each with the cursor that the page
before it gave, until a page is the last, a page fails, or a page names no successor. -/

namespace CloudInventory

structure Page (α : Type) where
  items : List α
  next : Option String
  last : Bool

namespace Page

/-- A page with a continuation token; without one, or with an empty one, it is the last. -/
def ofToken (items : List α) (token : Option String) : Page α :=
  let next := token.filter (· ≠ "")
  ⟨items, next, next.isNone⟩

def ofLast (items : List α) : Page α := ⟨items, none, true⟩

end Page

inductive Walk (α : Type) where
  /-- Asking for a page, with what the earlier ones held and how many they were. -/
  | asking (cursor : Option String) (gathered : List α) (pages : Nat)
  | stopped (outcome : Except Error (List α))

namespace Walk

def start : Walk α := .asking none [] 0

def brokenPaging (page : Nat) : Error :=
  .pagination s!"page {page} is not the last one but carries no cursor"

/-- Takes the answer to the request at hand. -/
def feed (answer : Except Error (Page α)) : Walk α → Walk α
  | .stopped outcome => .stopped outcome
  | .asking _ gathered pages =>
    match answer with
    | .error e => .stopped (.error e)
    | .ok page =>
      let gathered := gathered ++ page.items
      if page.last then .stopped (.ok gathered)
      else match page.next with
        | some next => .asking (some next) gathered (pages + 1)
        | none => .stopped (.error (brokenPaging (pages + 1)))

/-- A listing without pages: whatever token its only answer carries, nothing follows. -/
def single (answer : Except Error (Page α)) : Walk α := .stopped (answer.map (·.items))

/-- Walks for at most `fuel` requests. -/
def run [Monad m] (fetch : Option String → m (Except Error (Page α))) : Nat → Walk α → m (Walk α)
  | 0, walk => pure walk
  | _ + 1, .stopped outcome => pure (.stopped outcome)
  | fuel + 1, .asking cursor gathered pages => do
    let answer ← fetch cursor
    run fetch fuel (feed answer (.asking cursor gathered pages))

end Walk

end CloudInventory
