import CloudInventory.Alert
import CloudInventory.Proofs.Dict
import Mathlib.Logic.Function.Basic

/-! A ledger of alerts that many senders share. In whatever order their calls come, the ledger
holds under each type what was sent for it so far, in that order, and only ever grows. -/

namespace CloudInventory.Alerts

/-- A call has the ledger to itself until it is answered. -/
inductive Call (σ : Type) where
  | send (sender : σ) (type : String) (alert : Alert)
  | retrieve
  /-- Whether the alerts leave some type out. -/
  | ask

inductive Answer where
  | sent
  | snapshot (alerts : Alerts)
  | ignored (flag : Bool)
deriving DecidableEq

variable {σ : Type}

def Call.act (alerts : Alerts) : Call σ → Answer × Alerts
  | .send _ type alert => (.sent, alerts.send type alert)
  | .retrieve => (.snapshot alerts, alerts)
  | .ask => (.ignored alerts.ignoresSomeType, alerts)

def serve (alerts : Alerts) : List (Call σ) → List Answer × Alerts
  | [] => ([], alerts)
  | call :: calls =>
    let (answer, alerts) := call.act alerts
    let (answers, alerts) := serve alerts calls
    (answer :: answers, alerts)

def answers (calls : List (Call σ)) : List Answer := (serve empty calls).1

def ledger (calls : List (Call σ)) : Alerts := (serve empty calls).2

/-! ### What was sent -/

def Call.sentFor? (type : String) : Call σ → Option (σ × Alert)
  | .send sender other alert => if other = type then some (sender, alert) else none
  | _ => none

/-- The alerts sent for a type, each with its sender, in the order of the calls. -/
def sentFor (type : String) (calls : List (Call σ)) : List (σ × Alert) :=
  calls.filterMap (Call.sentFor? type)

def Call.sentBy? [DecidableEq σ] (s : σ) : Call σ → Option (String × Alert)
  | .send sender type alert => if sender = s then some (type, alert) else none
  | _ => none

def sentBy [DecidableEq σ] (s : σ) (calls : List (Call σ)) : List (String × Alert) :=
  calls.filterMap (Call.sentBy? s)

/-- Of what one sender has to send the alerts for a type. -/
def planned (type : String) (plan : List (String × Alert)) : List Alert :=
  (plan.filter (·.1 = type)).map (·.2)

/-- Of what was sent for a type the alerts of one sender. -/
def ownOf [DecidableEq σ] (s : σ) (sent : List (σ × Alert)) : List Alert :=
  (sent.filter (·.1 = s)).map (·.2)

/-- Every sender goes through what it has to send in its own order, and until all are done the
next call is that of any of them, or one that only looks. -/
inductive Interleaved [DecidableEq σ] : (σ → List (String × Alert)) → List (Call σ) → Prop
  | done {plans : σ → List (String × Alert)} : (∀ s, plans s = []) → Interleaved plans []
  | send {plans : σ → List (String × Alert)} {s : σ} {type : String} {alert : Alert}
      {rest : List (String × Alert)} {calls : List (Call σ)} : plans s = (type, alert) :: rest →
      Interleaved (Function.update plans s rest) calls →
      Interleaved plans (.send s type alert :: calls)
  | retrieve {plans : σ → List (String × Alert)} {calls : List (Call σ)} :
      Interleaved plans calls → Interleaved plans (.retrieve :: calls)
  | ask {plans : σ → List (String × Alert)} {calls : List (Call σ)} :
      Interleaved plans calls → Interleaved plans (.ask :: calls)

/-- No two senders have an alert for one type. -/
def Separate (plans : σ → List (String × Alert)) : Prop :=
  ∀ s s' type alert alert', (type, alert) ∈ plans s → (type, alert') ∈ plans s' → s = s'

/-- What a ledger holds after some calls: their alerts under their types, and no other type. -/
structure Keeps (past : List (Call σ)) (alerts : Alerts) : Prop where
  ascending : Dict.Ascending alerts
  held : ∀ type, alerts.of type = (sentFor type past).map (·.2)
  missing : ∀ type, Dict.find? type alerts = none ↔ sentFor type past = []

variable {past calls : List (Call σ)} {alerts : Alerts} {type : String}

/-! ### One call, then many -/

theorem of_send_self (type : String) (alert : Alert) (alerts : Alerts) :
    (alerts.send type alert).of type = alerts.of type ++ [alert] := by
  rw [send, of, Dict.find?_update_self]
  rfl

theorem sentFor_append (type : String) (past calls : List (Call σ)) :
    sentFor type (past ++ calls) = sentFor type past ++ sentFor type calls :=
  List.filterMap_append

theorem sentFor_send_of_ne {other : String} (h : other ≠ type) (s : σ) (alert : Alert) :
    sentFor type [.send s other alert] = [] := by
  simp [sentFor, Call.sentFor?, h]

theorem Keeps.of_empty : Keeps ([] : List (Call σ)) empty where
  ascending := .nil
  held _ := rfl
  missing _ := ⟨fun _ => rfl, fun _ => rfl⟩

theorem Keeps.send (h : Keeps past alerts) (s : σ) (type : String) (alert : Alert) :
    Keeps (past ++ [.send s type alert]) (alerts.send type alert) := by
  have hself : sentFor type [Call.send s type alert] = [(s, alert)] := by
    simp [sentFor, Call.sentFor?]
  refine ⟨h.ascending.update _ _ _, fun other => ?_, fun other => ?_⟩
  · by_cases hother : type = other
    · subst hother
      rw [of_send_self, h.held, sentFor_append, hself, List.map_append]
      rfl
    · rw [Alerts.send, of, Dict.find?_update_of_ne hother, ← of, h.held, sentFor_append,
        sentFor_send_of_ne hother, List.append_nil]
  · by_cases hother : type = other
    · subst hother
      rw [Alerts.send, Dict.find?_update_self, sentFor_append, hself]
      simp
    · rw [Alerts.send, Dict.find?_update_of_ne hother, h.missing, sentFor_append,
        sentFor_send_of_ne hother, List.append_nil]

theorem Keeps.act (h : Keeps past alerts) (call : Call σ) :
    Keeps (past ++ [call]) (call.act alerts).2 := by
  have hlook : (∀ type, call.sentFor? type = none) → Keeps (past ++ [call]) alerts := by
    intro hnone
    have hsame : ∀ type, sentFor type (past ++ [call]) = sentFor type past := by
      intro type
      simp [sentFor, hnone type]
    exact ⟨h.ascending, fun type => by rw [hsame, h.held], fun type => by rw [hsame, h.missing]⟩
  cases call with
  | send s type alert => exact h.send s type alert
  | retrieve => exact hlook fun _ => rfl
  | ask => exact hlook fun _ => rfl

theorem Keeps.serve (h : Keeps past alerts) (calls : List (Call σ)) :
    Keeps (past ++ calls) (Alerts.serve alerts calls).2 := by
  induction calls generalizing past alerts with
  | nil => rwa [List.append_nil]
  | cons call calls ih =>
    rw [List.append_cons]
    exact ih (h.act call)

theorem keeps_ledger (calls : List (Call σ)) : Keeps calls (ledger calls) :=
  Keeps.of_empty.serve calls

theorem Keeps.eq {alerts' : Alerts} (h : Keeps past alerts) (h' : Keeps calls alerts')
    (hsent : ∀ type, (sentFor type past).map (·.2) = (sentFor type calls).map (·.2)) :
    alerts = alerts' := by
  refine h.ascending.ext h'.ascending fun type => ?_
  have hof : alerts.of type = alerts'.of type := by rw [h.held, h'.held, hsent]
  have hnone : Dict.find? type alerts = none ↔ Dict.find? type alerts' = none := by
    rw [h.missing, h'.missing, ← List.map_eq_nil_iff, hsent, List.map_eq_nil_iff]
  simp only [of] at hof
  cases hfind : Dict.find? type alerts with
  | none => exact (hnone.mp hfind).symm
  | some list =>
    cases hfind' : Dict.find? type alerts' with
    | none => cases hfind.symm.trans (hnone.mpr hfind')
    | some list' => simpa [hfind, hfind'] using hof

theorem serve_getElem? (alerts : Alerts) (calls : List (Call σ)) (n : Nat) :
    (serve alerts calls).1[n]? =
      calls[n]?.map fun call => (call.act (serve alerts (calls.take n)).2).1 := by
  induction calls generalizing alerts n with
  | nil => rfl
  | cons call calls ih =>
    cases n with
    | zero => rfl
    | succ n => exact ih (call.act alerts).2 n

theorem answers_getElem? (calls : List (Call σ)) (n : Nat) :
    (answers calls)[n]? = calls[n]?.map fun call => (call.act (ledger (calls.take n))).1 :=
  serve_getElem? empty calls n

theorem ignoresSomeType_iff (h : Dict.Ascending alerts) : alerts.ignoresSomeType = true ↔
    ∃ type, ∃ alert ∈ alerts.of type, alert.ignoresType = true := by
  simp only [ignoresSomeType, List.any_eq_true]
  constructor
  · rintro ⟨e, he, alert, halert, hflag⟩
    refine ⟨e.1, alert, ?_, hflag⟩
    rwa [of, Dict.find?_of_mem h.nodup_keys he]
  · rintro ⟨type, alert, halert, hflag⟩
    cases hfind : Dict.find? type alerts with
    | none => simp [of, hfind] at halert
    | some list =>
      rw [of, hfind] at halert
      exact ⟨_, Dict.mem_of_find? hfind, alert, halert, hflag⟩

/-! ### Senders -/

section Senders

variable [DecidableEq σ] {plans : σ → List (String × Alert)} {s : σ} {call : Call σ}

theorem ownOf_sentFor (type : String) (s : σ) (calls : List (Call σ)) :
    ownOf s (sentFor type calls) = planned type (sentBy s calls) := by
  induction calls with
  | nil => rfl
  | cons call calls ih =>
    simp only [ownOf, sentFor, planned, sentBy] at ih ⊢
    cases call with
    | send sender other alert =>
      by_cases hs : sender = s <;> by_cases htype : other = type <;>
        simp [Call.sentFor?, Call.sentBy?, hs, htype, ih]
    | retrieve => exact ih
    | ask => exact ih

theorem mem_sentBy {alert : Alert} (h : (s, alert) ∈ sentFor type calls) :
    (type, alert) ∈ sentBy s calls := by
  have hown : alert ∈ ownOf s (sentFor type calls) :=
    List.mem_map.mpr ⟨_, List.mem_filter.mpr ⟨h, by simp⟩, rfl⟩
  rw [ownOf_sentFor] at hown
  obtain ⟨⟨other, alert'⟩, hmem, rfl⟩ := List.mem_map.mp hown
  obtain ⟨hsent, htype⟩ := List.mem_filter.mp hmem
  obtain rfl : other = type := by simpa using htype
  exact hsent

theorem sentBy_send_self (s : σ) (type : String) (alert : Alert) (calls : List (Call σ)) :
    sentBy s (.send s type alert :: calls) = (type, alert) :: sentBy s calls := by
  simp [sentBy, Call.sentBy?]

theorem sentBy_send_of_ne {sender : σ} (h : s ≠ sender) (type : String) (alert : Alert)
    (calls : List (Call σ)) : sentBy s (.send sender type alert :: calls) = sentBy s calls := by
  simp [sentBy, Call.sentBy?, Ne.symm h]

theorem interleaved_iff : Interleaved plans calls ↔ ∀ s, sentBy s calls = plans s := by
  constructor
  · intro h
    induction h with
    | done h => exact fun s => (h s).symm
    | @send plans sender type alert rest calls hplan _ ih =>
      intro s
      by_cases hs : s = sender
      · subst hs
        rw [sentBy_send_self, ih, Function.update_self, hplan]
      · rw [sentBy_send_of_ne hs, ih, Function.update_of_ne hs]
    | retrieve _ ih => exact ih
    | ask _ ih => exact ih
  · intro h
    induction calls generalizing plans with
    | nil => exact .done fun s => (h s).symm
    | cons call calls ih =>
      cases call with
      | send sender type alert =>
        have hplan : plans sender = (type, alert) :: sentBy sender calls := by
          rw [← h sender, sentBy_send_self]
        refine .send hplan (ih fun s => ?_)
        by_cases hs : s = sender
        · subst hs
          rw [Function.update_self]
        · rw [Function.update_of_ne hs, ← h s, sentBy_send_of_ne hs]
      | retrieve => exact .retrieve (ih h)
      | ask => exact .ask (ih h)

theorem Interleaved.ownOf_sentFor (h : Interleaved plans calls) (type : String) (s : σ) :
    ownOf s (sentFor type calls) = planned type (plans s) := by
  rw [Alerts.ownOf_sentFor, interleaved_iff.mp h s]

theorem Interleaved.ownOf_sentFor_take (h : Interleaved plans calls) (type : String) (s : σ)
    (n : Nat) : ownOf s (sentFor type (calls.take n)) <+: planned type (plans s) := by
  rw [← h.ownOf_sentFor type s]
  exact (((List.take_prefix n calls).filterMap _).filter _).map _

/-- Where only one sender has alerts for a type, they are all that is sent for it. -/
theorem Interleaved.sentFor_eq (h : Interleaved plans calls) (hseparate : Separate plans)
    {alert : Alert} (hplan : (type, alert) ∈ plans s) :
    (sentFor type calls).map (·.2) = planned type (plans s) := by
  have hall : ∀ sent ∈ sentFor type calls, sent.1 = s := by
    rintro ⟨sender, alert'⟩ hsent
    have hother := mem_sentBy hsent
    rw [interleaved_iff.mp h sender] at hother
    exact hseparate _ _ _ _ _ hother hplan
  rw [← h.ownOf_sentFor type s, ownOf, List.filter_eq_self.mpr (by simpa using hall)]

theorem Interleaved.sentFor_eq_nil (h : Interleaved plans calls)
    (hplan : ∀ s alert, (type, alert) ∉ plans s) : sentFor type calls = [] := by
  refine List.eq_nil_iff_forall_not_mem.mpr ?_
  rintro ⟨sender, alert⟩ hsent
  have hmem := mem_sentBy hsent
  rw [interleaved_iff.mp h sender] at hmem
  exact hplan sender alert hmem

theorem Interleaved.ledger_eq {calls' : List (Call σ)} (h : Interleaved plans calls)
    (h' : Interleaved plans calls') (hseparate : Separate plans) :
    ledger calls = ledger calls' := by
  refine (keeps_ledger calls).eq (keeps_ledger calls') fun type => ?_
  by_cases hplan : ∃ s alert, (type, alert) ∈ plans s
  · obtain ⟨s, alert, hmem⟩ := hplan
    rw [h.sentFor_eq hseparate hmem, h'.sentFor_eq hseparate hmem]
  · have hnone : ∀ s alert, (type, alert) ∉ plans s := fun s alert hmem => hplan ⟨s, alert, hmem⟩
    rw [h.sentFor_eq_nil hnone, h'.sentFor_eq_nil hnone]

/-- At every moment the ledger holds what was sent so far, under each type in order and under no
other type, and a retrieve is answered with just that; what is held once stays a front of what is
held later. In it the alerts of each sender keep their order, none of them is missing in the end,
and where no two senders share a type the end does not depend on the order of the calls. -/
theorem alerts_kept_in_order (h : Interleaved plans calls) :
    let now := fun n : Nat => ledger (calls.take n)
    (∀ n : Nat, calls[n]? = some .retrieve → (answers calls)[n]? = some (.snapshot (now n))) ∧
      (∀ n : Nat, calls[n]? = some .ask → ∃ flag, (answers calls)[n]? = some (.ignored flag) ∧
        (flag = true ↔ ∃ type, ∃ alert ∈ (now n).of type, alert.ignoresType = true)) ∧
      (∀ n, Keeps (calls.take n) (now n)) ∧
      (∀ m n type, m ≤ n → (now m).of type <+: (now n).of type) ∧
      (∀ n type s, ownOf s (sentFor type (calls.take n)) <+: planned type (plans s)) ∧
      (∀ type s, ownOf s (sentFor type calls) = planned type (plans s)) ∧
      (Separate plans → ∀ calls', Interleaved plans calls' → ledger calls = ledger calls') := by
  intro now
  refine ⟨fun n hcall => ?_, fun n hcall => ?_, fun n => keeps_ledger _, fun m n type hle => ?_,
    fun n type s => h.ownOf_sentFor_take type s n, h.ownOf_sentFor,
    fun hseparate calls' h' => h.ledger_eq h' hseparate⟩
  · rw [answers_getElem?, hcall]
    rfl
  · refine ⟨(now n).ignoresSomeType, ?_, ignoresSomeType_iff (keeps_ledger _).ascending⟩
    rw [answers_getElem?, hcall]
    rfl
  · have hpast : calls.take m <+: calls.take n := List.take_prefix_take_left hle
    rw [(keeps_ledger _).held, (keeps_ledger _).held]
    exact (hpast.filterMap _).map _

end Senders

def firstAlert : Alert := ⟨"first", false⟩

def secondAlert : Alert := ⟨"second", true⟩

/-- Two senders, one of which says the same twice. -/
def sending (type : String) : Bool → List (String × Alert)
  | false => [("disk", firstAlert), ("disk", firstAlert)]
  | true => [(type, secondAlert)]

def sharedCalls : List (Call Bool) :=
  [.send false "disk" firstAlert, .ask, .send true "disk" secondAlert, .retrieve,
    .send false "disk" firstAlert, .ask, .retrieve]

def earlyCalls : List (Call Bool) :=
  [.send true "bucket" secondAlert, .send false "disk" firstAlert, .retrieve,
    .send false "disk" firstAlert]

def lateCalls : List (Call Bool) :=
  [.send false "disk" firstAlert, .send false "disk" firstAlert, .send true "bucket" secondAlert]

theorem sending_kept :
    Interleaved (sending "disk") sharedCalls ∧
      (answers sharedCalls)[3]? = some (.snapshot [("disk", [firstAlert, secondAlert])]) ∧
      (answers sharedCalls)[6]? =
        some (.snapshot [("disk", [firstAlert, secondAlert, firstAlert])]) ∧
      ownOf false (sentFor "disk" sharedCalls) = [firstAlert, firstAlert] ∧
      Separate (sending "bucket") ∧ Interleaved (sending "bucket") earlyCalls ∧
      Interleaved (sending "bucket") lateCalls ∧ ledger earlyCalls = ledger lateCalls := by
  have hshared : Interleaved (sending "disk") sharedCalls := interleaved_iff.mpr (by decide)
  have hearly : Interleaved (sending "bucket") earlyCalls := interleaved_iff.mpr (by decide)
  have hlate : Interleaved (sending "bucket") lateCalls := interleaved_iff.mpr (by decide)
  have hseparate : Separate (sending "bucket") := by
    intro s s' type alert alert' hmem hmem'
    cases s <;> cases s' <;> simp_all [sending]
  obtain ⟨hretrieve, _, _, _, _, hown, _⟩ := alerts_kept_in_order hshared
  obtain ⟨_, _, _, _, _, _, hsame⟩ := alerts_kept_in_order hearly
  exact ⟨hshared, hretrieve 3 rfl, hretrieve 6 rfl, hown "disk" false, hseparate, hearly, hlate,
    hsame hseparate lateCalls hlate⟩

end CloudInventory.Alerts
