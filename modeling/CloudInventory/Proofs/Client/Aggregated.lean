import CloudInventory.Proofs.Client.Answers
import CloudInventory.Proofs.Json.Equality
import CloudInventory.Proofs.Listing.Walks

/-! Aggregated listings. The items of such a listing are spread over the lists of a scope, the
scopes of a page and the pages of a walk, among scopes and keys that hold none; the walk collects
each of them once, in the order of the keys, wherever the texts of the answers put these. -/

namespace CloudInventory

section Scopes

open Json (inKeyOrder field?_inKeyOrder items?_inKeyOrder entries?_inKeyOrder string?_inKeyOrder)

/-- The items in a scope whose keys are in order: those of its lists, but for the warning. -/
inductive InScope : Dict Json → List Json → Prop
  | nil : InScope [] []
  | list {key : String} {items : List Json} {entries : Dict Json} {rest : List Json} :
      key ≠ "warning" → InScope entries rest →
      InScope ((key, .array items) :: entries) (items ++ rest)
  | passed {key : String} {v : Json} {entries : Dict Json} {items : List Json} :
      key = "warning" ∨ v.items? = none → InScope entries items →
      InScope ((key, v) :: entries) items

/-- The items in scopes in order, of which each has its keys in any order. -/
inductive InScopes : Dict Json → List Json → Prop
  | nil : InScopes [] []
  | scope {key : String} {entries sorted scopes : Dict Json} {items rest : List Json} :
      entries.Perm sorted → sorted.Ascending → InScope sorted items → InScopes scopes rest →
      InScopes ((key, .object entries) :: scopes) (items ++ rest)
  | passed {key : String} {v : Json} {scopes : Dict Json} {items : List Json} :
      v.entries? = none → InScopes scopes items → InScopes ((key, v) :: scopes) items

/-- The items on a page, whose scopes are in any order. -/
inductive OnPage : Json → List Json → Prop
  | scopes {entries scopes sorted : Dict Json} {items : List Json} :
      (entries.map (·.1)).Nodup → Dict.find? "items" entries = some (.object scopes) →
      scopes.Perm sorted → sorted.Ascending → InScopes sorted items →
      OnPage (.object entries) items
  | bare {entries : Dict Json} :
      (entries.map (·.1)).Nodup → (Dict.find? "items" entries).bind Json.entries? = none →
      OnPage (.object entries) []

/-- The items on pages of which each names the token of the one after it and the last names none. -/
inductive OnPages : List Json → List Json → Prop
  | last {w : Json} {items : List Json} : OnPage w items →
      (Items.nextToken? w).filter (· ≠ "") = none → OnPages [w] items
  | more {w : Json} {token : String} {items rest : List Json} {ws : List Json} : OnPage w items →
      Items.nextToken? w = some token → token ≠ "" → OnPages ws rest →
      OnPages (w :: ws) (items ++ rest)

theorem nextToken?_inKeyOrder {w : Json} {items : List Json} (h : OnPage w items) :
    Items.nextToken? w.inKeyOrder = Items.nextToken? w := by
  have hfield : ∀ entries : Dict Json, (entries.map (·.1)).Nodup →
      Items.nextToken? (inKeyOrder (.object entries)) = Items.nextToken? (.object entries) := by
    intro entries hkeys
    rw [Items.nextToken?, field?_inKeyOrder hkeys, Items.nextToken?, Json.field?]
    cases Dict.find? "nextPageToken" entries <;> simp [string?_inKeyOrder]
  cases h with
  | scopes hkeys => exact hfield _ hkeys
  | bare hkeys => exact hfield _ hkeys

theorem ofScope_cons (key : String) (v : Json) (entries : Dict Json) :
    Items.ofScope (.object ((key, v) :: entries)) =
      (if key = "warning" then [] else v.items?.getD []) ++ Items.ofScope (.object entries) := by
  by_cases hkey : key = "warning"
  · simp [Items.ofScope, Json.entries?, hkey]
  · simp [Items.ofScope, Json.entries?, hkey]

theorem ofScope_eq {entries : Dict Json} {items : List Json} (h : InScope entries items) :
    Items.ofScope (.object (Dict.mapValues inKeyOrder entries)) = items.map inKeyOrder := by
  induction h with
  | nil => rfl
  | list hkey _ ih =>
    rw [Dict.mapValues, List.map_cons, ofScope_cons, if_neg hkey, items?_inKeyOrder,
      List.map_append]
    exact congrArg _ ih
  | passed hpassed _ ih =>
    rw [Dict.mapValues, List.map_cons, ofScope_cons]
    rcases hpassed with hkey | hv
    · rw [if_pos hkey]
      exact ih
    · rw [items?_inKeyOrder, hv, Option.map_none, Option.getD_none, ite_self]
      exact ih

theorem ofScopes_eq {scopes : Dict Json} {items : List Json} (h : InScopes scopes items) :
    (Dict.mapValues inKeyOrder scopes).flatMap (fun e => Items.ofScope e.2) =
      items.map inKeyOrder := by
  induction h with
  | nil => rfl
  | @scope key entries sorted scopes items rest hperm hsorted hscope _ ih =>
    rw [Dict.mapValues, List.map_cons, List.flatMap_cons, Json.inKeyOrder_of_perm hperm hsorted,
      ofScope_eq hscope, List.map_append]
    exact congrArg _ ih
  | @passed key v scopes items hv _ ih =>
    have hnone : Items.ofScope v.inKeyOrder = [] := by
      simp [Items.ofScope, entries?_inKeyOrder, hv]
    rw [Dict.mapValues, List.map_cons, List.flatMap_cons, hnone]
    exact ih

theorem ofScopes_onPage {w : Json} {items : List Json} (h : OnPage w items) :
    Items.ofScopes w.inKeyOrder = items.map inKeyOrder := by
  cases h with
  | @scopes entries scopes sorted _ hkeys hfind hperm hsorted hscopes =>
    have hread : Items.ofScopes (inKeyOrder (.object entries)) =
        (Dict.mapValues inKeyOrder sorted).flatMap fun e => Items.ofScope e.2 := by
      rw [Items.ofScopes, field?_inKeyOrder hkeys, hfind, Option.map_some,
        Json.inKeyOrder_of_perm hperm hsorted]
      rfl
    rw [hread, ofScopes_eq hscopes]
  | @bare entries hkeys hfind =>
    have hnone : ((inKeyOrder (.object entries)).field? "items").bind Json.entries? = none := by
      rw [field?_inKeyOrder hkeys]
      cases hitems : Dict.find? "items" entries with
      | none => rfl
      | some v =>
        rw [hitems, Option.bind_some] at hfind
        simp [entries?_inKeyOrder, hfind]
    rw [Items.ofScopes, hnone]
    rfl

variable {request : ListRequest} {w : Json} {items : List Json} {ws : List Json}

theorem page_onPage (haggregated : request.aggregated = true) (h : OnPage w items) :
    Items.page request w.inKeyOrder =
      .ofToken (items.map inKeyOrder) (Items.nextToken? w) := by
  simp only [Items.page, haggregated, if_true, ofScopes_onPage h, nextToken?_inKeyOrder h]

theorem split_onPages (haggregated : request.aggregated = true) (h : OnPages ws items) :
    Walk.Split (ws.map fun w => Items.page request w.inKeyOrder) (items.map inKeyOrder) := by
  induction h with
  | last hpage htoken =>
    rw [List.map_singleton, page_onPage haggregated hpage]
    exact .tokenless _ htoken
  | more hpage htoken hne _ ih =>
    rw [List.map_cons, page_onPage haggregated hpage, htoken, List.map_append]
    exact .more _ hne ih

end Scopes

namespace Client

variable {request : ListRequest}

/-- The list calls of a walk, which ask a client that may have changed since the call before. -/
def listing (clients : Nat → Client) (request : ListRequest) : Walk.Fetch Nat Json :=
  fun cursor n => ((clients n).listPage request cursor, n + 1)

/-- Whether successive answers write these values, each under the cursor that the one before it
names. -/
def Answer (clients : Nat → Client) (request : ListRequest) :
    Option String → Nat → List Json → Prop
  | _, _, [] => True
  | cursor, n, w :: ws => (clients n).Writes ((clients n).pageUrl request cursor) w ∧
      Answer clients request ((Items.nextToken? w).filter (· ≠ "")) (n + 1) ws

theorem serves_of_answer {clients : Nat → Client} {cursor : Option String} {n : Nat}
    {ws items : List Json} (haggregated : request.aggregated = true) (hpages : OnPages ws items)
    (h : Answer clients request cursor n ws) :
    Walk.Serves (listing clients request) cursor n
      (ws.map fun w => Items.page request w.inKeyOrder) := by
  have hcall : ∀ {cursor : Option String} {n : Nat} {w : Json},
      (clients n).Writes ((clients n).pageUrl request cursor) w →
      listing clients request cursor n = (.ok (Items.page request w.inKeyOrder), n + 1) := by
    intro cursor n w hwrites
    rw [listing, listPage, hwrites.get_eq]
    rfl
  induction hpages generalizing cursor n with
  | last hpage htoken => exact ⟨_, hcall h.1, trivial⟩
  | @more w token _ _ ws hpage htoken hne _ ih =>
    refine ⟨_, hcall h.1, ?_⟩
    have hnext : (Items.page request w.inKeyOrder).next =
        (Items.nextToken? w).filter (· ≠ "") := by
      rw [page_onPage haggregated hpage]
      rfl
    rw [hnext]
    exact ih h.2

/-- A walk over an aggregated listing collects every item once, page by page, on a page in the
order of the scopes, in a scope in the order of its keys and under a key in that of its list, past
all that lists nothing. What it collects is not changed by the order of the keys in a text. -/
theorem aggregated_collected (haggregated : request.aggregated = true) :
    (∀ clients ws items, OnPages ws items → Answer clients request none 0 ws →
      ∃ calls t, calls.length = ws.length ∧
        Walk.Ended (listing clients request) 0 calls (.ok (items.map Json.inKeyOrder)) t ∧
        ∀ n, ws.length ≤ n → Walk.after (listing clients request) 0 n =
          (.stopped (.ok (items.map Json.inKeyOrder)), (t, calls))) ∧
    ∀ clients others : Nat → Client, (∀ n, Alike (clients n) (others n)) →
      ∀ n, Walk.after (listing clients request) 0 n = Walk.after (listing others request) 0 n := by
  refine ⟨fun clients ws items hpages hanswer => ?_, fun clients others halike n => ?_⟩
  · have hsplit := split_onPages haggregated hpages
    have hserves := serves_of_answer haggregated hpages hanswer
    obtain ⟨calls, t, hended, hlength⟩ := Walk.Asked.first.ended_of_split hsplit hserves
    rw [List.length_map] at hlength
    exact ⟨calls, t, hlength, hended, fun n hn => hended.after_of_le (hlength ▸ hn)⟩
  · have hsame : listing clients request = listing others request := by
      funext cursor n
      rw [listing, listing, (halike n).listPage_eq]
    rw [hsame]

section Example

def zoneA : Dict Json :=
  [("instances", .array [.string "a", .string "b"]), ("warning", .array [.object []])]

def zoneB : Dict Json :=
  [("disks", .array [.string "c"]), ("instances", .array [.string "d"]), ("kind", .string "k")]

def zones : Dict Json :=
  [("global", .object [("warning", .object [])]), ("regions", .int 7), ("z/a", .object zoneA),
    ("z/b", .object zoneB.reverse)]

def firstBody : String :=
  "\x7b\"nextPageToken\":\"n\",\"items\":\x7b\"z/b\":\x7b\"kind\":\"k\",\"instances\":[\"d\"]," ++
  "\"disks\":[\"c\"]\x7d,\"z/a\":\x7b\"instances\":[\"a\",\"b\"],\"warning\":[\x7b\x7d]\x7d," ++
  "\"regions\":7,\"global\":\x7b\"warning\":\x7b\x7d\x7d\x7d\x7d"

def sortedBody : String :=
  "\x7b\"nextPageToken\":\"n\",\"items\":\x7b\"global\":\x7b\"warning\":\x7b\x7d\x7d," ++
  "\"regions\":7,\"z/a\":\x7b\"instances\":[\"a\",\"b\"],\"warning\":[\x7b\x7d]\x7d," ++
  "\"z/b\":\x7b\"kind\":\"k\",\"instances\":[\"d\"],\"disks\":[\"c\"]\x7d\x7d\x7d"

def lastBody : String := "\x7b\"items\":\x7b\"z/c\":\x7b\"instances\":[\"e\"]\x7d\x7d\x7d"

/-- The first call is answered with a text, whatever it asks for, and every later one with the
last page. -/
def telling (body : String) (n : Nat) : Client :=
  ⟨"p", none, .ok "token", fun _ _ => .ok ⟨200, if n = 0 then body else lastBody⟩⟩

def firstPage (scopes : Dict Json) : Json :=
  .object [("nextPageToken", .string "n"), ("items", .object scopes)]

def lastPage : Json :=
  .object [("items", .object [("z/c", .object [("instances", .array [.string "e"])])])]

theorem zones_collected :
    let request := ResourceType.computeInstance.definition.listRequest "p" []
    ∃ calls t, calls.length = 2 ∧ ∀ body ∈ [firstBody, sortedBody], ∀ n, 2 ≤ n →
      Walk.after (listing (telling body) request) 0 n =
        (.stopped (.ok (["a", "b", "c", "d", "e"].map .string)), (t, calls)) := by
  intro request
  have hfirst : Json.written? firstBody = some (firstPage zones.reverse) := by decide +kernel
  have hsorted : Json.written? sortedBody = some (firstPage zones) := by decide +kernel
  have hlast : Json.written? lastBody = some lastPage := by decide +kernel
  have honfirst : OnPage (firstPage zones.reverse) (["a", "b", "c", "d"].map .string) := by
    refine .scopes (by simp) rfl (List.reverse_perm zones) (by decide) ?_
    have hwarned : InScope [("warning", .object [])] [] := .passed (.inl rfl) .nil
    have hzoneA : InScope zoneA [.string "a", .string "b"] :=
      .list (by simp) (.passed (.inl rfl) .nil)
    have hzoneB : InScope zoneB [.string "c", .string "d"] :=
      .list (by simp) (.list (by simp) (.passed (.inr rfl) .nil))
    exact .scope .rfl (by decide) hwarned (.passed rfl
      (.scope .rfl (by decide) hzoneA
        (.scope (List.reverse_perm zoneB) (by decide) hzoneB .nil)))
  have honlast : OnPage lastPage [.string "e"] :=
    .scopes (by simp) rfl .rfl (by decide)
      (.scope .rfl (by decide) (.list (by simp) .nil) .nil)
  have hanswer : Answer (telling firstBody) request none 0 [firstPage zones.reverse, lastPage] :=
    ⟨⟨"token", ⟨200, firstBody⟩, rfl, rfl, rfl, hfirst⟩,
      ⟨"token", ⟨200, lastBody⟩, rfl, rfl, rfl, hlast⟩, trivial⟩
  have halike : ∀ n, Alike (telling firstBody n) (telling sortedBody n) := by
    refine fun n => ⟨rfl, rfl, fun url token => .answer ?_⟩
    by_cases hn : n = 0
    · subst hn
      exact .inr ⟨rfl, _, _, hfirst, hsorted, .entry [_] [] "items"
        (.entries (List.reverse_perm zones) (by decide))⟩
    · simp only [if_neg hn]
      exact .inl rfl
  obtain ⟨hwalk, horder⟩ := aggregated_collected (show request.aggregated = true from rfl)
  obtain ⟨calls, t, hlength, _, hafter⟩ := hwalk (telling firstBody) _ _
    (.more honfirst rfl (by decide) (.last honlast rfl)) hanswer
  refine ⟨calls, t, hlength, fun body hbody n hn => ?_⟩
  rcases List.mem_cons.mp hbody with rfl | hbody
  · exact hafter n hn
  · obtain rfl := List.mem_singleton.mp hbody
    rw [← horder _ _ halike]
    exact hafter n hn

end Example

end Client

end CloudInventory
