import CloudInventory.Client.Basic
import CloudInventory.Proofs.Json.Equality
import CloudInventory.Proofs.Template.Paths
import CloudInventory.Proofs.Text.Separators

/-! The addresses of list calls. Nothing in front of the query can open it, and nothing in an
encoded value can end its part, so that the parameters and the cursor are read back from an address
as they were given. -/

namespace CloudInventory

namespace Template

variable {c : Char} {needle value cs : List Char} {vars : Variables} {template : String}

theorem mem_replaceFrom {k : Nat} (h : c ∈ replaceFrom needle value k cs) : c ∈ value ∨ c ∈ cs := by
  induction cs generalizing k with
  | nil => cases k <;> exact .inr h
  | cons d cs ih =>
    have hlater : c ∈ value ∨ c ∈ cs → c ∈ value ∨ c ∈ d :: cs :=
      Or.imp_right (List.mem_cons_of_mem d)
    cases k with
    | succ k => exact hlater (ih h)
    | zero =>
      rw [replaceFrom] at h
      split at h
      · rcases List.mem_append.mp h with h | h
        · exact .inl h
        · exact hlater (ih h)
      · rcases List.mem_cons.mp h with rfl | h
        · exact .inr List.mem_cons_self
        · exact hlater (ih h)

/-- Whatever the variables are, a path has no characters but its template's and those of encoded
text. -/
theorem mem_expandPath (h : c ∈ (expandPath template vars).toList) :
    Text.isKept c = true ∨ c = '%' ∨ c ∈ template.toList := by
  rw [expandPath, String.toList_ofList, expandWith] at h
  generalize template.toList = cs at h ⊢
  induction vars generalizing cs with
  | nil => exact .inr (.inr h)
  | cons v vars ih =>
    rcases ih _ h with hkept | rfl | hmem
    · exact .inl hkept
    · exact .inr (.inl rfl)
    · rcases mem_replaceFrom hmem with hvalue | hcs
      · exact (Text.mem_percentEncode hvalue).imp_right .inl
      · exact .inr (.inr hcs)

theorem expandParam_of_plain (h : '\x7b' ∉ template.toList) (vars : Variables) :
    expandParam template vars = template := by
  have hexpand : expandWith id vars template.toList = template.toList := by
    rw [expandWith]
    induction vars with
    | nil => rfl
    | cons v vars ih =>
      have htext : replaceAll (placeholder v.1.toList) v.2.toList (template.toList ++ []) =
          template.toList ++ replaceAll (placeholder v.1.toList) v.2.toList [] := replaceAll_text h
      have hnil : replaceAll (placeholder v.1.toList) v.2.toList [] = [] := rfl
      rw [hnil, List.append_nil] at htext
      rw [List.foldl_cons, id_eq, htext, ih]
  rw [expandParam, hexpand, String.ofList_toList]

theorem expandParam_hole (name value : String) :
    expandParam (String.ofList (placeholder name.toList)) [(name, value)] = value := by
  have hhit : replaceAll (placeholder name.toList) value.toList (placeholder name.toList ++ []) =
      value.toList ++ [] := replaceAll_hit '\x7b' (name.toList ++ ['\x7d'])
  rw [List.append_nil, List.append_nil] at hhit
  have hexpand : expandWith id [(name, value)] (placeholder name.toList) = value.toList := hhit
  rw [expandParam, String.toList_ofList, hexpand, String.ofList_toList]

end Template

theorem Service.mem_url {c : Char} {root : Option String} {service : Service} {path : String}
    (h : c ∈ (service.url root path).toList) : c ∈ (root.getD service.host).toList ∨ c = '/' ∨
      c ∈ service.basePath.toList ∨ c ∈ path.toList := by
  simp only [url, String.toList_ofList, List.mem_append, List.mem_cons, List.mem_reverse] at h
  rcases h with h | h | h | h | h
  · exact .inl (List.mem_reverse.mp (List.dropWhile_subset _ h))
  · exact .inr (.inl h)
  · exact .inr (.inr (.inl h))
  · exact .inr (.inl h)
  · exact .inr (.inr (.inr (List.dropWhile_subset _ h)))

namespace Client

open Text (percentDecoded? percentEncode isKept splitOnce splitAt)

/-- The key of a part of a query, and what its value stands for. -/
def param? (part : List Char) : Option (String × String) :=
  (splitOnce '=' part).bind fun (key, value) =>
    (percentDecoded? value).map fun value => (String.ofList key, value)

/-- The parameters that an address carries, which are none without a query. -/
def params? (url : String) : Option (List (String × String)) :=
  match splitOnce '?' url.toList with
  | none => some []
  | some (_, query) => (splitAt '&' query).mapM param?

section Queries

variable {c : Char} {p : String × String} {params : List (String × String)} {url : String}

def PlainKey (p : String × String) : Prop := ∀ c ∈ p.1.toList, isKept c = true

theorem mem_queryPart (hp : PlainKey p) (h : c ∈ queryPart p) :
    isKept c = true ∨ c = '%' ∨ c = '=' := by
  rw [queryPart] at h
  rcases List.mem_append.mp h with h | h
  · exact .inl (hp c h)
  · rcases List.mem_cons.mp h with rfl | h
    · exact .inr (.inr rfl)
    · exact (Text.mem_percentEncode h).imp_right .inl

theorem not_mem_queryPart (hp : PlainKey p) (hkept : isKept c = false) (hpercent : c ≠ '%')
    (hequals : c ≠ '=') : c ∉ queryPart p := by
  intro h
  rcases mem_queryPart hp h with h | rfl | rfl
  · rw [hkept] at h
    cases h
  · exact hpercent rfl
  · exact hequals rfl

theorem param?_queryPart (hp : PlainKey p) : param? (queryPart p) = some p := by
  have hkey : '=' ∉ p.1.toList := fun h => absurd (hp _ h) (by decide)
  simp only [param?, queryPart, Text.splitOnce_append hkey, Option.bind_some,
    Text.percentDecoded?_percentEncode, Option.map_some, String.ofList_toList]

theorem toList_withQuery (hurl : '?' ∉ url.toList) (p : String × String)
    (params : List (String × String)) : (withQuery url (p :: params)).toList =
      url.toList ++ '?' :: (queryPart p ++ params.flatMap fun q => '&' :: queryPart q) := by
  have hjoint : url.toList.contains '?' = false := by simpa using hurl
  simp only [withQuery, hjoint, String.toList_ofList, Bool.false_eq_true, if_false]

/-- An ampersand stands between two parts of a query. -/
theorem intercalate_parts (part : List Char) (params : List (String × String)) :
    ['&'].intercalate (part :: params.map queryPart) =
      part ++ params.flatMap fun q => '&' :: queryPart q := by
  induction params generalizing part with
  | nil => simp [List.intercalate]
  | cons q params ih =>
    rw [List.flatMap_cons, List.cons_append, ← ih, List.map_cons]
    simp [List.intercalate]

theorem mapM_param? (h : ∀ p ∈ params, PlainKey p) :
    (params.map queryPart).mapM param? = some params := by
  induction params with
  | nil => rfl
  | cons p params ih =>
    obtain ⟨hp, hparams⟩ := List.forall_mem_cons.mp h
    rw [List.map_cons, List.mapM_cons, param?_queryPart hp, ih hparams]
    rfl

/-- An address tells the parameters that it was made with. -/
theorem params?_withQuery (hurl : '?' ∉ url.toList) (hkeys : ∀ p ∈ params, PlainKey p) :
    params? (withQuery url params) = some params := by
  cases params with
  | nil => rw [params?, withQuery, Text.splitOnce_eq_none hurl]
  | cons p params =>
    have hampersand : ∀ part ∈ (p :: params).map queryPart, '&' ∉ part := by
      intro part hpart
      obtain ⟨q, hq, rfl⟩ := List.mem_map.mp hpart
      exact not_mem_queryPart (hkeys q hq) rfl (by decide) (by decide)
    have hsplit := Text.splitAt_intercalate hampersand (List.cons_ne_nil _ _)
    rw [List.map_cons, intercalate_parts, ← List.map_cons] at hsplit
    simp only [params?, toList_withQuery hurl, Text.splitOnce_append hurl, hsplit,
      mapM_param? hkeys]

theorem not_mem_query (hkeys : ∀ q ∈ p :: params, PlainKey q) (hkept : isKept c = false)
    (hpercent : c ≠ '%') (hequals : c ≠ '=') (hampersand : c ≠ '&') :
    c ∉ queryPart p ++ params.flatMap fun q => '&' :: queryPart q := by
  obtain ⟨hp, hparams⟩ := List.forall_mem_cons.mp hkeys
  intro h
  rcases List.mem_append.mp h with h | h
  · exact not_mem_queryPart hp hkept hpercent hequals h
  · obtain ⟨q, hq, h⟩ := List.mem_flatMap.mp h
    rcases List.mem_cons.mp h with rfl | h
    · exact hampersand rfl
    · exact not_mem_queryPart (hparams q hq) hkept hpercent hequals h

theorem count_withQuery (hurl : '?' ∉ url.toList) (hkeys : ∀ p ∈ params, PlainKey p) :
    (withQuery url params).toList.count '?' = if params = [] then 0 else 1 := by
  cases params with
  | nil => exact List.count_eq_zero.mpr hurl
  | cons p params =>
    have hquery := not_mem_query hkeys (c := '?') rfl (by decide) (by decide) (by decide)
    rw [toList_withQuery hurl, List.count_append, List.count_cons_self,
      List.count_eq_zero.mpr hurl, List.count_eq_zero.mpr hquery, if_neg (List.cons_ne_nil _ _)]

theorem not_fragment_withQuery (hurl : ∀ c ∈ url.toList, c ≠ '?' ∧ c ≠ '#')
    (hkeys : ∀ p ∈ params, PlainKey p) : '#' ∉ (withQuery url params).toList := by
  have hquestion : '?' ∉ url.toList := fun h => (hurl _ h).1 rfl
  have hfragment : '#' ∉ url.toList := fun h => (hurl _ h).2 rfl
  cases params with
  | nil => exact hfragment
  | cons p params =>
    have hquery := not_mem_query hkeys (c := '#') rfl (by decide) (by decide) (by decide)
    rw [toList_withQuery hquestion, List.mem_append, List.mem_cons]
    rintro (h | h | h)
    · exact hfragment h
    · cases h
    · exact hquery h

end Queries

section Listings

open Template (Asks Variables)

variable {c : Client} {t : ResourceType} {project : String} {parents : Variables}
  {cursor : Option String}

/-- The root that stands in for the hosts, if there is one, opens neither a query nor a
fragment. -/
def PlainRoot (c : Client) : Prop :=
  ∀ root ∈ c.apiRoot, ∀ ch ∈ root.toList, ch ≠ '?' ∧ ch ≠ '#'

theorem plain_of_kept {ch : Char} (h : isKept ch = true ∨ ch = '%') : ch ≠ '?' ∧ ch ≠ '#' := by
  constructor
  all_goals
    rintro rfl
    revert h
    decide

theorem plain_of_all {cs : List Char} (h : (cs.all fun ch => ch != '?' && ch != '#') = true) :
    ∀ ch ∈ cs, ch ≠ '?' ∧ ch ≠ '#' := by simpa using h

theorem plain_url (hroot : c.PlainRoot) (service : Service) {path : String}
    (hpath : ∀ ch ∈ path.toList, ch ≠ '?' ∧ ch ≠ '#') :
    ∀ ch ∈ (c.url service path).toList, ch ≠ '?' ∧ ch ≠ '#' := by
  have hservice : (∀ ch ∈ service.host.toList, ch ≠ '?' ∧ ch ≠ '#') ∧
      ∀ ch ∈ service.basePath.toList, ch ≠ '?' ∧ ch ≠ '#' := by
    cases service <;> exact ⟨plain_of_all (by decide), plain_of_all (by decide)⟩
  intro ch h
  rcases Service.mem_url h with h | rfl | h | h
  · cases hgiven : c.apiRoot with
    | none =>
      rw [hgiven] at h
      exact hservice.1 ch h
    | some root =>
      rw [hgiven] at h
      exact hroot root hgiven ch h
  · decide
  · exact hservice.2 ch h
  · exact hpath ch h

theorem plain_listRequest (t : ResourceType) (project : String) (parents : Variables) :
    ∀ ch ∈ (t.definition.listRequest project parents).path.toList, ch ≠ '?' ∧ ch ≠ '#' := by
  intro ch h
  rcases Template.mem_expandPath h with hkept | hpercent | hmem
  · exact plain_of_kept (.inl hkept)
  · exact plain_of_kept (.inr hpercent)
  · exact (Template.registered_regular t).2.2 ch hmem

theorem plainKeys_listRequest (t : ResourceType) (project : String) (parents : Variables)
    (cursor : Option String) :
    ∀ p ∈ pageParams (t.definition.listRequest project parents) cursor, PlainKey p := by
  have hparams : ∀ p ∈ t.definition.listParams, PlainKey p := by
    cases t <;> simp [ResourceType.definition, PlainKey] <;> decide
  intro p hp
  rcases List.mem_append.mp hp with hp | hp
  · obtain ⟨q, hq, rfl⟩ := List.mem_map.mp hp
    exact hparams q hq
  · obtain ⟨token, _, rfl⟩ := List.mem_map.mp (Option.toList_map ▸ hp)
    have htoken : ∀ ch ∈ "pageToken".toList, isKept ch = true :=
      List.all_eq_true.mp (by decide)
    exact htoken

theorem not_asks_bucket (name : String) : ¬Asks "b" name := by
  have hsplit : splitAt '/' "b".toList = [['b']] := rfl
  rw [Asks, hsplit, List.mem_singleton]
  intro h
  exact absurd (List.head_eq_of_cons_eq h) (by decide)

/-- The parameters of a listing are its own, the project as it is among them. -/
theorem params_listRequest (h : ∀ v ∈ parents, Asks t.definition.listPath v.1) :
    (t.definition.listRequest project parents).params =
      t.definition.listParams.mapValues fun value =>
        if value = "\x7bproject\x7d" then project else value := by
  have hcases : ∀ p ∈ t.definition.listParams, '\x7b' ∉ p.2.toList ∨
      p.2 = "\x7bproject\x7d" ∧ t.definition.listPath = "b" := by
    cases t <;> simp [ResourceType.definition]
  refine List.map_congr_left fun p hp => Prod.ext rfl ?_
  rcases hcases p hp with hplain | ⟨hproject, hpath⟩
  · have hne : p.2 ≠ "\x7bproject\x7d" := fun he => hplain (he ▸ by decide)
    simp only [if_neg hne, Template.expandParam_of_plain hplain]
  · obtain rfl : parents = [] := by
      refine List.eq_nil_iff_forall_not_mem.mpr fun v hv => ?_
      exact not_asks_bucket v.1 (hpath ▸ h v hv)
    have hhole : "\x7bproject\x7d" =
        String.ofList (Template.placeholder "project".toList) := rfl
    have hvalue := Template.expandParam_hole "project" project
    simp only [hproject, if_true]
    exact (congrArg (Template.expandParam · _) hhole).trans hvalue

theorem ascending_listRequest (t : ResourceType) (project : String) (parents : Variables) :
    (t.definition.listRequest project parents).params.Ascending := by
  have hparams : t.definition.listParams.Ascending := by
    cases t <;> simp [ResourceType.definition, Dict.Ascending]
  exact hparams.mapValues fun value => Template.expandParam value (("project", project) :: parents)

/-- A walk goes on with the token that an answer names. -/
theorem feed_token {request : ListRequest} {v : Json} {token : String}
    (hget : c.get (c.pageUrl request cursor) = .ok v)
    (htoken : v.field? "nextPageToken" = some (.string token)) (hne : token ≠ "")
    (gathered : List Json) (pages : Nat) :
    Walk.feed (c.listPage request cursor) (.asking cursor gathered pages) =
      .asking (some token) (gathered ++ (Items.page request v).items) (pages + 1) := by
  have hnext : (Items.page request v).next = some token := by
    simp [Items.page, Page.ofToken, Items.nextToken?, htoken, Json.string?, Option.filter, hne]
  have hlast : (Items.page request v).last = false := congrArg Option.isNone hnext
  have hpage : c.listPage request cursor = .ok (Items.page request v) := by
    rw [listPage, hget]
    rfl
  simp [Walk.feed, hpage, hlast, hnext]

/-- The address of a list call has one question mark where it has a parameter or a cursor and none
where it has neither, and its query is read back as the parameters in the order of their keys and
then the cursor, each as it was before it was encoded. Different cursors make different addresses,
and the token that an answer names is the cursor of the call after it. -/
theorem queries_carried (hroot : c.PlainRoot) (t : ResourceType) (project : String)
    (parents : Variables) :
    let request := t.definition.listRequest project parents
    (request.params.Ascending ∧ ((∀ v ∈ parents, Asks t.definition.listPath v.1) →
      request.params = t.definition.listParams.mapValues fun value =>
        if value = "\x7bproject\x7d" then project else value)) ∧
    ∀ cursor : Option String,
      params? (c.pageUrl request cursor) =
        some (request.params ++ (cursor.map fun token => ("pageToken", token)).toList) ∧
      (c.pageUrl request cursor).toList.count '?' =
        (if request.params = [] ∧ cursor = none then 0 else 1) ∧
      '#' ∉ (c.pageUrl request cursor).toList ∧
      (∀ other, c.pageUrl request cursor = c.pageUrl request other → cursor = other) ∧
      ∀ v token, c.get (c.pageUrl request cursor) = .ok v →
        v.field? "nextPageToken" = some (.string token) → token ≠ "" →
        ∀ gathered pages, Walk.feed (c.listPage request cursor) (.asking cursor gathered pages) =
          .asking (some token) (gathered ++ (Items.page request v).items) (pages + 1) := by
  intro request
  have hurl := plain_url hroot request.service (plain_listRequest t project parents)
  have hquestion : '?' ∉ (c.url request.service request.path).toList := fun h => (hurl _ h).1 rfl
  have hkeys : ∀ cursor, ∀ p ∈ pageParams request cursor, PlainKey p :=
    plainKeys_listRequest t project parents
  have hread : ∀ cursor, params? (c.pageUrl request cursor) = some (pageParams request cursor) :=
    fun cursor => params?_withQuery hquestion (hkeys cursor)
  refine ⟨⟨ascending_listRequest t project parents, params_listRequest⟩, fun cursor =>
    ⟨hread cursor, ?_, not_fragment_withQuery hurl (hkeys cursor), ?_, ?_⟩⟩
  · have hnone : pageParams request cursor = [] ↔ request.params = [] ∧ cursor = none := by
      cases cursor <;> simp [pageParams]
    rw [pageUrl, count_withQuery hquestion (hkeys cursor)]
    simp only [hnone]
  · intro other hsame
    have hparams := hread cursor
    rw [hsame, hread other, Option.some.injEq] at hparams
    have htokens := List.append_cancel_left hparams
    cases cursor <;> cases other <;> simp_all
  · intro v token hget htoken hne gathered pages
    exact feed_token hget htoken hne gathered pages

def tokenBody : String := "\x7b\"nextPageToken\":\"x=+/%\"\x7d"

/-- Every address answers with one token. -/
def paging : Client :=
  ⟨"p", some "http://127.0.0.1:9000/", .ok "token", fun _ _ => .ok ⟨200, tokenBody⟩⟩

theorem paging_carries :
    let request := ResourceType.storageBucket.definition.listRequest "a&b" []
    paging.pageUrl request (some "x=+/%") =
      "http://127.0.0.1:9000/storage/v1/b?project=a%26b&pageToken=x%3D%2B%2F%25" ∧
    params? "http://127.0.0.1:9000/storage/v1/b?project=a%26b&pageToken=x%3D%2B%2F%25" =
      some [("project", "a&b"), ("pageToken", "x=+/%")] ∧
    Walk.feed (paging.listPage request none) .start = .asking (some "x=+/%") [] 1 := by
  intro request
  have hroot : paging.PlainRoot := by
    rintro root ⟨⟩
    exact plain_of_all (by decide)
  have hurl : paging.pageUrl request (some "x=+/%") =
      "http://127.0.0.1:9000/storage/v1/b?project=a%26b&pageToken=x%3D%2B%2F%25" := by
    decide +kernel
  have hget : paging.get (paging.pageUrl request none) =
      .ok (.object [("nextPageToken", .string "x=+/%")]) := by
    have hparse : Json.parse tokenBody = .ok (.object [("nextPageToken", .string "x=+/%")]) := by
      decide +kernel
    have hfull : tokenBody.toList.all Text.isBlank = false := by decide
    simp only [get, paging, bind, Except.bind, Response.content, hfull, hparse]
    rfl
  obtain ⟨⟨_, hraw⟩, hcalls⟩ := queries_carried hroot .storageBucket "a&b" []
  have hparams : request.params = [("project", "a&b")] := hraw (by simp)
  refine ⟨hurl, ?_, ?_⟩
  · rw [← hurl, (hcalls (some "x=+/%")).1, hparams]
    rfl
  · exact (hcalls none).2.2.2.2 _ "x=+/%" hget rfl (by decide) [] 0

end Listings

end Client

end CloudInventory
