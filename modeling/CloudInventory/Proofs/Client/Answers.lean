import CloudInventory.Client.Basic
import CloudInventory.Proofs.Json.Reordered

/-! The texts of answers, as a client takes them. An object comes with its keys in order, so that
clients whose answers differ only in the order of keys are one client. -/

namespace CloudInventory

theorem Response.ascending_of_content {r : Response} {url : String} {entries : Dict Json}
    (h : r.content url = .ok (.object entries)) : entries.Ascending := by
  unfold content at h
  split at h
  · cases h
  · split at h
    · obtain rfl := Json.object.inj (Except.ok.inj h)
      exact .nil
    · split at h
      · next v hparse =>
        obtain rfl := Except.ok.inj h
        obtain ⟨w, _, hw⟩ := Json.parse_eq_ok_iff.mp hparse
        exact Json.ascending_of_inKeyOrder hw
      · cases h

namespace Client

variable {c d : Client} {url : String}

theorem ascending_of_get {entries : Dict Json} (h : c.get url = .ok (.object entries)) :
    entries.Ascending := by
  cases htoken : c.token with
  | error e => simp [get, htoken, bind, Except.bind] at h
  | ok token =>
    cases hanswer : c.answer url token with
    | error fault => simp [get, htoken, hanswer, bind, Except.bind] at h
    | ok r =>
      simp only [get, htoken, hanswer, bind, Except.bind] at h
      exact r.ascending_of_content h

/-- Whether the answer to an address succeeds with a text that writes a value. -/
def Writes (c : Client) (url : String) (w : Json) : Prop :=
  ∃ token r, c.token = .ok token ∧ c.answer url token = .ok r ∧ r.isSuccess = true ∧
    Json.written? r.body = some w

theorem Writes.get_eq {w : Json} (h : c.Writes url w) :
    c.get url = .ok w.inKeyOrder := by
  obtain ⟨token, r, htoken, hanswer, hsuccess, hbody⟩ := h
  have hcontent : r.content url = .ok w.inKeyOrder := by
    simp [Response.content, hsuccess, Json.not_blank_of_written hbody, Json.parse_of_written hbody]
  simp [get, htoken, hanswer, hcontent, bind, Except.bind]

/-- Answers that differ in nothing but the order of the keys in their texts. -/
def SameButOrder (r s : Response) : Prop :=
  r = s ∨ r.status = s.status ∧ ∃ v w, Json.written? r.body = some v ∧
    Json.written? s.body = some w ∧ Json.Reordered v w

theorem SameButOrder.content_eq {r s : Response} (h : SameButOrder r s) (url : String) :
    r.content url = s.content url := by
  rcases h with rfl | ⟨hstatus, v, w, hv, hw, hreordered⟩
  · rfl
  · have hparse := Json.parse_of_reordered hv hw hreordered
    simp only [Response.content, Response.isSuccess, Response.failureMessage,
      Response.serviceMessage?, hstatus, hparse, Json.not_blank_of_written hv,
      Json.not_blank_of_written hw]

/-- No answer for the same reason, or such answers. -/
inductive SameAnswers : Except TransportFault Response → Except TransportFault Response → Prop
  | fault (f : TransportFault) : SameAnswers (.error f) (.error f)
  | answer {r s : Response} : SameButOrder r s → SameAnswers (.ok r) (.ok s)

/-- Clients of the same services whose answers differ in nothing but the order of keys. -/
structure Alike (c d : Client) : Prop where
  root : c.apiRoot = d.apiRoot
  token : c.token = d.token
  answers : ∀ url token, SameAnswers (c.answer url token) (d.answer url token)

theorem Alike.get_eq (h : Alike c d) (url : String) : c.get url = d.get url := by
  simp only [get, h.token]
  refine bind_congr fun token => ?_
  have hanswers := h.answers url token
  generalize c.answer url token = r at hanswers ⊢
  generalize d.answer url token = s at hanswers ⊢
  cases hanswers with
  | answer hsame => exact hsame.content_eq url
  | fault => rfl

theorem Alike.listPage_eq (h : Alike c d) (request : ListRequest) (cursor : Option String) :
    c.listPage request cursor = d.listPage request cursor := by
  have hurl : c.pageUrl request cursor = d.pageUrl request cursor := by
    simp only [pageUrl, Client.url, h.root]
  rw [listPage, listPage, hurl, h.get_eq]

end Client

end CloudInventory
