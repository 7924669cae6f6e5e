import CloudInventory.Client.Basic
import CloudInventory.Proofs.Text.Plain

/-! What a client makes of an answer. The status alone tells success from failure and one failure
from another; of the words of a service no more is passed on than fits, and nothing that cannot be
printed. -/

namespace CloudInventory

theorem Error.isForbidden_api_iff {status : Nat} {url message : String} :
    (Error.api status url message).isForbidden = true ↔ status = 403 := by
  simp [isForbidden, status?, forbiddenStatus]

namespace Response

variable {r : Response} {url m shown front : String}

def Succeeded (r : Response) : Prop := 200 ≤ r.status ∧ r.status < 300

def Blank (r : Response) : Prop := ∀ c ∈ r.body.toList, Text.isBlank c = true

/-- The body is an object with the message of an error. -/
def Tells (r : Response) (m : String) : Prop :=
  ∃ v fault, Json.parse r.body = .ok v ∧ v.field? "error" = some fault ∧
    fault.field? "message" = some (.string m)

/-- What a failure says: the message of the service, or else the words for its status. -/
def Says (r : Response) (m : String) : Prop :=
  Tells r m ∨ (∀ other, ¬Tells r other) ∧ m = (reason? r.status).getD "unknown"

/-- The longest front of a text that has at most 200 octets and ends on a character. -/
structure Fits (m front : String) : Prop where
  rest : ∃ back, m = front ++ back
  size : front.utf8ByteSize ≤ 200
  longest : ∀ other back, m = other ++ back → other.utf8ByteSize ≤ 200 →
    other.utf8ByteSize ≤ front.utf8ByteSize

def printable (text : String) : String :=
  String.ofList (text.toList.filter fun c => 0x20 ≤ c.toNat ∧ c.toNat ≤ 0x7E)

/-- What is shown of a text. -/
inductive Shown (m : String) : String → Prop
  | whole : m.utf8ByteSize ≤ 200 → Shown m (printable m)
  | cut {front : String} : 200 < m.utf8ByteSize → Fits m front →
      Shown m (printable front ++ s!"... [truncated, {m.utf8ByteSize} bytes total]")

/-! ### Texts -/

theorem fits_iff : Fits m front ↔ front.toList = Text.utf8Prefix shownLimit m.toList := by
  -- A front of a text, said with an append on texts and with a prefix on characters.
  have hstarts : ∀ other : String, (∃ back, m = other ++ back) ↔ other.toList <+: m.toList := by
    intro other
    constructor
    · rintro ⟨back, rfl⟩
      rw [String.toList_append]
      exact List.prefix_append _ _
    · rintro ⟨back, hback⟩
      refine ⟨String.ofList back, String.toList_inj.mp ?_⟩
      rw [String.toList_append, String.toList_ofList, hback]
  rw [Text.eq_utf8Prefix_iff, ← hstarts, Text.utf8Size_toList]
  constructor
  · rintro ⟨hrest, hsize, hlongest⟩
    refine ⟨hrest, hsize, fun other hother hle => ?_⟩
    rw [← String.toList_ofList (l := other)] at hother hle ⊢
    rw [Text.utf8Size_toList] at hle ⊢
    obtain ⟨back, hback⟩ := (hstarts _).mpr hother
    exact hlongest _ back hback hle
  · rintro ⟨hrest, hsize, hlongest⟩
    refine ⟨hrest, hsize, fun other back hback hle => ?_⟩
    rw [← Text.utf8Size_toList] at hle ⊢
    exact hlongest _ ((hstarts other).mp ⟨back, hback⟩) hle

theorem toList_printable (text : String) :
    (printable text).toList = text.toList.filter Text.isPrintableAscii := by
  rw [printable, String.toList_ofList, Text.filter_printable]

theorem filter_note (n : Nat) :
    (s!"... [truncated, {n} bytes total]").toList.filter Text.isPrintableAscii =
      (s!"... [truncated, {n} bytes total]").toList := by
  -- The words of the note are printable by computation, its number because it is all digits.
  have hdigits : (toString n).toList = Nat.toDigits 10 n := String.toList_ofList
  have hall : ∀ c ∈ Nat.toDigits 10 n, Text.isPrintableAscii c = true := fun c hc =>
    Text.isPrintableAscii_of_isDigit (Nat.isDigit_of_mem_toDigits (by decide) (by decide) hc)
  simp only [String.toList_append, List.filter_append, hdigits]
  rw [List.filter_eq_self.mpr hall]
  rfl

theorem sanitized_of_le (h : m.utf8ByteSize ≤ 200) : sanitized m = printable m := by
  have hsize : ¬shownLimit < m.utf8ByteSize := Nat.not_lt.mpr h
  rw [← String.toList_inj, toList_printable, sanitized]
  simp only [String.toList_ofList, Text.utf8Size_toList, if_neg hsize]

theorem sanitized_of_fits (h : 200 < m.utf8ByteSize) (hfront : Fits m front) :
    sanitized m = printable front ++ s!"... [truncated, {m.utf8ByteSize} bytes total]" := by
  have hsize : shownLimit < m.utf8ByteSize := h
  rw [← String.toList_inj, String.toList_append, toList_printable, fits_iff.mp hfront, sanitized]
  simp only [String.toList_ofList, Text.utf8Size_toList, if_pos hsize, List.filter_append,
    filter_note]

theorem shown_iff : Shown m shown ↔ shown = sanitized m := by
  constructor
  · intro h
    cases h with
    | whole hle => exact (sanitized_of_le hle).symm
    | cut hlt hfront => exact (sanitized_of_fits hlt hfront).symm
  · rintro rfl
    rcases Nat.lt_or_ge 200 m.utf8ByteSize with hlt | hle
    · have hfront : Fits m (String.ofList (Text.utf8Prefix shownLimit m.toList)) :=
        fits_iff.mpr String.toList_ofList
      rw [sanitized_of_fits hlt hfront]
      exact .cut hlt hfront
    · rw [sanitized_of_le hle]
      exact .whole hle

theorem printable_of_mem_sanitized {c : Char} (h : c ∈ (sanitized m).toList) :
    0x20 ≤ c.toNat ∧ c.toNat ≤ 0x7E := by
  rw [sanitized, String.toList_ofList] at h
  exact Text.isPrintableAscii_iff.mp (List.mem_filter.mp h).2

/-! ### Answers -/

theorem succeeded_iff : r.isSuccess = true ↔ r.Succeeded := by
  simp only [isSuccess, Succeeded, Bool.and_eq_true, decide_eq_true_eq]
  omega

theorem serviceMessage?_eq_some_iff : r.serviceMessage? = some m ↔ r.Tells m := by
  have hstring : ∀ v : Json, v.string? = some m ↔ v = .string m := by
    intro v
    cases v <;> simp [Json.string?]
  unfold serviceMessage? Tells
  cases Json.parse r.body with
  | error message => simp
  | ok v => simp [Option.bind_eq_some_iff, hstring]

theorem serviceMessage?_ofList (status : Nat) (cs : List Char) :
    serviceMessage? ⟨status, String.ofList cs⟩ =
      match Json.readText.run cs with
      | .error _ => none
      | .ok (v, _) => ((v.field? "error").bind (·.field? "message")).bind Json.string? := by
  rw [serviceMessage?, Json.parse, String.toList_ofList]
  cases Json.readText.run cs <;> rfl

theorem says_iff : r.Says m ↔ m = r.serviceMessage?.getD ((reason? r.status).getD "unknown") := by
  simp only [Says, ← serviceMessage?_eq_some_iff]
  cases r.serviceMessage? <;> simp [eq_comm]

theorem blank_iff : r.body.toList.all Text.isBlank = true ↔ r.Blank := List.all_eq_true

theorem content_ok_iff {v : Json} : r.content url = .ok v ↔ r.Succeeded ∧
    (r.Blank ∧ v = .object [] ∨ ¬r.Blank ∧ Json.parse r.body = .ok v) := by
  rw [← succeeded_iff, ← blank_iff, content]
  cases r.isSuccess with
  | false => simp
  | true =>
    cases r.body.toList.all Text.isBlank with
    | true => simp [eq_comm]
    | false => cases Json.parse r.body <;> simp

theorem content_error_iff {e : Error} : r.content url = .error e ↔
    r.Succeeded ∧ ¬r.Blank ∧ (∃ fault, Json.parse r.body = .error fault ∧ e = .json fault) ∨
      ¬r.Succeeded ∧ ∃ m shown, r.Says m ∧ Shown m shown ∧ e = .api r.status url shown := by
  have hfailure : (∃ m shown, r.Says m ∧ Shown m shown ∧ e = .api r.status url shown) ↔
      e = .api r.status url r.failureMessage := by
    simp only [says_iff, shown_iff]
    constructor
    · rintro ⟨_, _, rfl, rfl, he⟩
      exact he
    · exact fun he => ⟨_, _, rfl, rfl, he⟩
  rw [hfailure, ← succeeded_iff, ← blank_iff, content]
  cases r.isSuccess with
  | false => simp [eq_comm (a := e)]
  | true =>
    cases r.body.toList.all Text.isBlank with
    | true => simp
    | false => cases Json.parse r.body <;> simp [eq_comm (a := e)]

end Response

namespace Client

variable {c : Client} {url : String} {r : Response}

def Answered (c : Client) (url : String) (r : Response) : Prop :=
  ∃ token, c.token = .ok token ∧ c.answer url token = .ok r

theorem Answered.get_eq (h : c.Answered url r) : c.get url = r.content url := by
  obtain ⟨token, htoken, hanswer⟩ := h
  simp [get, htoken, hanswer, bind, Except.bind]

/-- A request succeeds exactly where the status says so and the body is blank or JSON. Every other
status is the status of the error, the one of a refusal among them, and the error says what the
service or its status does, cut to its limit and free of what cannot be printed. -/
theorem status_decides (h : c.Answered url r) :
    (∀ v, c.get url = .ok v ↔ r.Succeeded ∧
      (r.Blank ∧ v = .object [] ∨ ¬r.Blank ∧ Json.parse r.body = .ok v)) ∧
      (∀ e, c.get url = .error e ↔
        r.Succeeded ∧ ¬r.Blank ∧ (∃ fault, Json.parse r.body = .error fault ∧ e = .json fault) ∨
          ¬r.Succeeded ∧ ∃ m shown, r.Says m ∧ Response.Shown m shown ∧
            e = .api r.status url shown) ∧
      ((∃ e, c.get url = .error e ∧ e.isForbidden = true) ↔ r.status = 403) ∧
      ∀ status address message, c.get url = .error (.api status address message) →
        status = r.status ∧ ∀ ch ∈ message.toList, 0x20 ≤ ch.toNat ∧ ch.toNat ≤ 0x7E := by
  rw [h.get_eq]
  refine ⟨fun v => Response.content_ok_iff, fun e => Response.content_error_iff, ?_, ?_⟩
  · simp only [Response.content_error_iff]
    constructor
    · rintro ⟨e, ⟨_, _, fault, _, rfl⟩ | ⟨_, m, shown, _, _, rfl⟩, hforbidden⟩
      · cases hforbidden
      · exact Error.isForbidden_api_iff.mp hforbidden
    · intro hstatus
      have hfailed : ¬r.Succeeded := by
        simp [Response.Succeeded, hstatus]
      refine ⟨_, .inr ⟨hfailed, _, _, Response.says_iff.mpr rfl, Response.shown_iff.mpr rfl, rfl⟩,
        ?_⟩
      exact Error.isForbidden_api_iff.mpr hstatus
  · intro status address message hcontent
    rcases Response.content_error_iff.mp hcontent with ⟨_, _, fault, _, he⟩ |
      ⟨_, m, shown, _, hshown, he⟩
    · cases he
    · obtain ⟨rfl, rfl, rfl⟩ := Error.api.inj he
      rw [Response.shown_iff.mp hshown]
      exact ⟨rfl, fun ch => Response.printable_of_mem_sanitized⟩

/-- A text of 201 octets, 197 of which are those of its longest front. -/
def longWords : List Char := 'a' :: List.replicate 50 (Char.ofNat 0x1F600)

/-- A body that gives them as the message of an error. -/
def longRefusal : List Char :=
  "\x7b\"error\":\x7b\"message\":\"".toList ++ longWords ++ "\"\x7d\x7d".toList

/-- A service that answers a blank page, a refusal in many words, and a failure without any. -/
def speaking : Client where
  project := "test-project"
  apiRoot := none
  token := .ok "token"
  answer url _ :=
    if url = "blank" then .ok ⟨204, " \n"⟩
    else if url = "refused" then .ok ⟨403, String.ofList longRefusal⟩
    else .ok ⟨599, "no JSON"⟩

theorem speaking_decided :
    speaking.get "blank" = .ok (.object []) ∧
      speaking.get "refused" =
        .error (.api 403 "refused" "a... [truncated, 201 bytes total]") ∧
      speaking.get "other" = .error (.api 599 "other" "unknown") := by
  have hfailed : ∀ r : Response, 300 ≤ r.status → ¬r.Succeeded := fun r hle h =>
    Nat.not_lt.mpr hle h.2
  refine ⟨?_, ?_, ?_⟩
  · have hanswered : speaking.Answered "blank" ⟨204, " \n"⟩ := ⟨_, rfl, rfl⟩
    refine ((status_decides hanswered).1 _).mpr ⟨⟨by decide, by decide⟩, .inl ⟨?_, rfl⟩⟩
    exact Response.blank_iff.mp (by decide)
  · have hanswered : speaking.Answered "refused" ⟨403, String.ofList longRefusal⟩ :=
      ⟨_, rfl, rfl⟩
    refine ((status_decides hanswered).2.1 _).mpr
      (.inr ⟨hfailed _ (by decide), String.ofList longWords, _, .inl ?_, ?_, rfl⟩)
    · rw [← Response.serviceMessage?_eq_some_iff, Response.serviceMessage?_ofList]
      decide +kernel
    · rw [Response.shown_iff, Response.sanitized, String.toList_ofList]
      decide +kernel
  · have hanswered : speaking.Answered "other" ⟨599, "no JSON"⟩ := ⟨_, rfl, rfl⟩
    have hnone : Response.serviceMessage? ⟨599, "no JSON"⟩ = none := by decide +kernel
    refine ((status_decides hanswered).2.1 _).mpr
      (.inr ⟨hfailed _ (by decide), "unknown", _, .inr ⟨fun m hm => ?_, rfl⟩, ?_, rfl⟩)
    · cases hnone.symm.trans (Response.serviceMessage?_eq_some_iff.mpr hm)
    · exact Response.shown_iff.mpr (by decide +kernel)

end Client

end CloudInventory
