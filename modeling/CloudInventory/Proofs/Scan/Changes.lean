import CloudInventory.Proofs.Scan.Survey

/-! What one step of a scan can do. Every step is an act of the pool at most, with what its
supplier makes of it. -/

namespace CloudInventory

namespace Pool

variable {α : Type} {p : Pool α} {free : Bool}

/-- What a look of a submission to the `r`-th runner tells of the pool. -/
def Fits (r : Nat) (p : Pool α) : Look → Prop
  | .refused => p.cancelled = true
  | .skipped => p.isClosed r = true
  | .accepted => 0 < p.free
  | .pending => True

theorem fits_lookFrom (gate : Gate) (r : Nat) (hf : free = true → 0 < p.free) :
    p.Fits r (p.lookFrom gate r free) := by
  have hpermit : p.Fits r (p.lookFrom .permit r free) := by
    cases free with
    | true => exact hf rfl
    | false => trivial
  have hmark : p.Fits r (p.lookFrom .mark r free) := by
    simp only [lookFrom, lookWithin]
    split
    · exact ‹_›
    · exact hpermit
  cases gate with
  | scope =>
    simp only [lookFrom, look]
    split
    · exact ‹_›
    · exact hmark
  | mark => exact hmark
  | permit => exact hpermit

end Pool

namespace Survey

variable {u v : Survey} {i k : Nat}

def act (m : Pool.Act State) (u : Survey) : Survey :=
  ⟨u.scan.withPool (u.scan.pool.act m), u.log.note m u.scan.pool⟩

def setProgress (i : Nat) (progress : Progress) (u : Survey) : Survey :=
  { u with scan := u.scan.setProgress i progress }

def hear (i : Nat) (x : Exchange) (u : Survey) : Survey :=
  ⟨{ u.scan with calls := u.scan.calls ++ [x.1] }, u.log.hear i x⟩

def openRunner (i : Nat) (u : Survey) : Survey :=
  ⟨u.scan.withPool u.scan.pool.addRunner, u.log.openRunner i u.scan.pool⟩

def begin (b : Read) (u : Survey) : Survey :=
  ⟨{ u.scan.withPool (u.scan.pool.accept b.runner ⟨b.ending, .none⟩) with
      reads := u.scan.reads ++ [b.args] },
    (u.log.note (.accept b.runner ⟨b.ending, .none⟩) u.scan.pool).begin b⟩

def sendAll (sent : List (Nat × (String × Alert))) (alerts : Alerts) : Alerts :=
  sent.foldl (fun alerts x => alerts.send x.2.1 x.2.2) alerts

def send (i : Nat) (type : String) (alert? : Option Alert) (u : Survey) : Survey :=
  ⟨{ u.scan with
      alerts := sendAll (alert?.toList.map fun alert => (i, (type, alert))) u.scan.alerts },
    u.log.send i type alert?⟩

/-- What a failed supplier ends with, an alert standing for the failure where there is one. -/
def resultOf (e : Error) : Option Alert → Except Error (List Resource)
  | some _ => .ok []
  | none => .error e

theorem fail_eq (i : Nat) (type : String) (e : Error) (alert? : Option Alert) (u : Survey) :
    ⟨u.scan.fail i type e alert?, u.log.send i type alert?⟩ =
      (u.send i type alert?).setProgress i (.finished (resultOf e alert?)) := by
  cases alert? <;> rfl

@[simp] theorem log_act (m : Pool.Act State) : (u.act m).log = u.log.note m u.scan.pool := rfl

@[simp] theorem log_setProgress (progress : Progress) :
    (u.setProgress i progress).log = u.log := rfl

@[simp] theorem log_hear (x : Exchange) : (u.hear i x).log = u.log.hear i x := rfl

@[simp] theorem log_openRunner : (u.openRunner i).log = u.log.openRunner i u.scan.pool := rfl

@[simp] theorem log_begin (b : Read) : (u.begin b).log =
    (u.log.note (.accept b.runner ⟨b.ending, .none⟩) u.scan.pool).begin b := rfl

@[simp] theorem log_send (type : String) (alert? : Option Alert) :
    (u.send i type alert?).log = u.log.send i type alert? := rfl

def readings (t : ResourceType) (states : List State) : Except Error (List Resource) :=
  (t.readStates states).map (·.filter Resource.isConfigured)

section Equations

variable {r : Nat} {t : ResourceType} {l : Listing} {call : ListRequest × Option String}
  {page : Except Error (Page Json)}

/-- A listing after the answer to its call. -/
def listed (i : Nat) (t : ResourceType) (call : ListRequest × Option String)
    (page : Except Error (Page Json)) (l : Listing) (u : Survey) : Survey :=
  match l with
  | .done (.ok args) =>
    ((u.hear i (call, page)).openRunner i).setProgress i
      (.submitting u.scan.pool.runners.length args)
  | .done (.error f) =>
    ((u.hear i (call, page)).send i t.name
      (Alert.ofListing? f.error t.name f.listed)).setProgress i
        (.finished (resultOf f.error (Alert.ofListing? f.error t.name f.listed)))
  | l => (u.hear i (call, page)).setProgress i (.listing l)

theorem take_answer (hi : u.scan.suppliers[i]? = some ⟨t, .listing l⟩)
    (hcall : l.request? t u.scan.project = some call) :
    u.take (.answer i page) = u.listed i t call page (l.feed t page) := by
  have hreq : u.scan.request? i = some call := by simp [Scan.request?, hi, hcall]
  cases hfeed : l.feed t page with
  | done outcome =>
    cases outcome with
    | ok args =>
      simp only [take, Scan.answer, Scan.Log.answered, hi, hreq, hfeed]
      rfl
    | error f =>
      simp only [take, Scan.answer, Scan.Log.answered, hi, hreq, hfeed]
      exact fail_eq i t.name f.error _ (u.hear i (call, page))
  | first walk =>
    simp only [take, Scan.answer, Scan.Log.answered, hi, hreq, hfeed]
    rfl
  | below parent others walk found =>
    simp only [take, Scan.answer, Scan.Log.answered, hi, hreq, hfeed]
    rfl

theorem take_answer_idle (h : u.scan.request? i = none) : u.take (.answer i page) = u := by
  cases hi : u.scan.suppliers[i]? with
  | none => simp [take, Scan.answer, Scan.Log.answered, hi]
  | some p =>
    obtain ⟨t, progress⟩ := p
    cases progress <;> simp [take, Scan.answer, Scan.Log.answered, hi, h]

variable {gate : Gate} {free : Bool} {ending : Ending State} {args : ReadArgs}
  {todo : List ReadArgs}

/-- A read after the look of its submission. -/
def met (i r : Nat) (args : ReadArgs) (todo : List ReadArgs) (ending : Ending State)
    (look : Pool.Look) (u : Survey) : Survey :=
  match look with
  | .refused => (u.act (.drop r)).setProgress i (.finished (.error .cancelled))
  | .skipped => u.setProgress i (.submitting r todo)
  | .accepted => (u.begin ⟨i, r, args, ending⟩).setProgress i (.submitting r todo)
  | .pending => u

theorem take_submit_nil (hi : u.scan.suppliers[i]? = some ⟨t, .submitting r []⟩) :
    u.take (.submit i gate free ending) =
      (u.act (.startWait r)).setProgress i (.waiting r) := by
  simp only [take, Scan.submitMeeting, Scan.Log.submitted, hi]
  rfl

theorem take_submit (hi : u.scan.suppliers[i]? = some ⟨t, .submitting r (args :: todo)⟩) :
    u.take (.submit i gate free ending) =
      u.met i r args todo ending (u.scan.pool.lookFrom gate r free) := by
  cases hl : u.scan.pool.lookFrom gate r free <;>
    simp only [take, Scan.submitMeeting, Scan.Log.submitted, hi, hl] <;> rfl

theorem take_submit_idle (h : ∀ t r todo, u.scan.suppliers[i]? ≠ some ⟨t, .submitting r todo⟩) :
    u.take (.submit i gate free ending) = u := by
  cases hi : u.scan.suppliers[i]? with
  | none => simp [take, Scan.submitMeeting, Scan.Log.submitted, hi]
  | some p =>
    obtain ⟨t, progress⟩ := p
    cases progress with
    | submitting r todo => exact absurd hi (h t r todo)
    | listing | waiting | finished => simp [take, Scan.submitMeeting, Scan.Log.submitted, hi]

/-- A wait after its look at the pool. -/
def waited (i : Nat) (t : ResourceType) (r : Nat) (outcome? : Option (Except Error (List State)))
    (u : Survey) : Survey :=
  match outcome? with
  | none => u.act (.await r)
  | some (.error e) =>
    ((u.act (.await r)).send i t.name
      (Alert.ofReading? e t.name t.definition.forbiddenRead)).setProgress i
        (.finished (resultOf e (Alert.ofReading? e t.name t.definition.forbiddenRead)))
  | some (.ok states) => (u.act (.await r)).setProgress i (.finished (readings t states))

theorem take_await (hi : u.scan.suppliers[i]? = some ⟨t, .waiting r⟩) :
    u.take (.await i) = u.waited i t r ((u.scan.pool.await r).settled? r) := by
  cases hs : (u.scan.pool.await r).settled? r with
  | none =>
    simp only [take, Scan.await, Scan.Log.awaited, hi, Scan.withPool, hs]
    rfl
  | some outcome =>
    cases outcome with
    | error e =>
      simp only [take, Scan.await, Scan.Log.awaited, hi, Scan.withPool, hs]
      exact fail_eq i t.name e _ (u.act (.await r))
    | ok states =>
      simp only [take, Scan.await, Scan.Log.awaited, hi, Scan.withPool, hs]
      rfl

theorem pool_await (hi : u.scan.suppliers[i]? = some ⟨t, .waiting r⟩) :
    (u.take (.await i)).scan.pool = u.scan.pool.await r := by
  rw [take_await hi]
  unfold waited
  split <;> rfl

theorem take_await_idle (h : ∀ t r, u.scan.suppliers[i]? ≠ some ⟨t, .waiting r⟩) :
    u.take (.await i) = u := by
  cases hi : u.scan.suppliers[i]? with
  | none => simp [take, Scan.await, Scan.Log.awaited, hi]
  | some p =>
    obtain ⟨t, progress⟩ := p
    cases progress with
    | waiting r => exact absurd hi (h t r)
    | listing | submitting | finished => simp [take, Scan.await, Scan.Log.awaited, hi]

theorem take_answer_of_ne {progress : Progress} (hi : u.scan.suppliers[i]? = some ⟨t, progress⟩)
    (hne : ∀ l, progress ≠ .listing l) : u.take (.answer i page) = u := by
  cases progress with
  | listing l => exact absurd rfl (hne l)
  | submitting | waiting | finished => exact take_answer_idle (by simp [Scan.request?, hi])

theorem take_submit_of_ne {progress : Progress} (hi : u.scan.suppliers[i]? = some ⟨t, progress⟩)
    (hne : ∀ r todo, progress ≠ .submitting r todo) : u.take (.submit i gate free ending) = u := by
  refine take_submit_idle fun t' r todo ht => hne r todo ?_
  rw [hi, Option.some.injEq, Supplier.mk.injEq] at ht
  exact ht.2

theorem take_await_of_ne {progress : Progress} (hi : u.scan.suppliers[i]? = some ⟨t, progress⟩)
    (hne : ∀ r, progress ≠ .waiting r) : u.take (.await i) = u := by
  refine take_await_idle fun t' r ht => hne r ?_
  rw [hi, Option.some.injEq, Supplier.mk.injEq] at ht
  exact ht.2

theorem answer_cases (i : Nat) (page : Except Error (Page Json)) (u : Survey) :
    (u.scan.request? i = none ∧ u.take (.answer i page) = u) ∨
      ∃ t l call, u.scan.suppliers[i]? = some ⟨t, .listing l⟩ ∧
        l.request? t u.scan.project = some call ∧ u.scan.request? i = some call ∧
        u.take (.answer i page) = u.listed i t call page (l.feed t page) := by
  cases hreq : u.scan.request? i with
  | none => exact .inl ⟨rfl, take_answer_idle hreq⟩
  | some call =>
    obtain ⟨⟨t, progress⟩, hi, hcall⟩ := Option.bind_eq_some_iff.mp hreq
    cases progress with
    | listing l => exact .inr ⟨t, l, call, hi, hcall, rfl, take_answer hi hcall⟩
    | submitting | waiting | finished => cases hcall

theorem submit_cases (i : Nat) (gate : Gate) (free : Bool) (ending : Ending State) (u : Survey) :
    u.take (.submit i gate free ending) = u ∨
      (∃ t r, u.scan.suppliers[i]? = some ⟨t, .submitting r []⟩ ∧
        u.take (.submit i gate free ending) = (u.act (.startWait r)).setProgress i (.waiting r)) ∨
      ∃ t r args todo, u.scan.suppliers[i]? = some ⟨t, .submitting r (args :: todo)⟩ ∧
        u.take (.submit i gate free ending) =
          u.met i r args todo ending (u.scan.pool.lookFrom gate r free) := by
  by_cases h : ∃ t r todo, u.scan.suppliers[i]? = some ⟨t, .submitting r todo⟩
  · obtain ⟨t, r, todo, hi⟩ := h
    cases todo with
    | nil => exact .inr (.inl ⟨t, r, hi, take_submit_nil hi⟩)
    | cons args todo => exact .inr (.inr ⟨t, r, args, todo, hi, take_submit hi⟩)
  · exact .inl (take_submit_idle fun t r todo hi => h ⟨t, r, todo, hi⟩)

theorem await_cases (i : Nat) (u : Survey) : u.take (.await i) = u ∨
    ∃ t r, u.scan.suppliers[i]? = some ⟨t, .waiting r⟩ ∧
      u.take (.await i) = u.waited i t r ((u.scan.pool.await r).settled? r) := by
  by_cases h : ∃ t r, u.scan.suppliers[i]? = some ⟨t, .waiting r⟩
  · obtain ⟨t, r, hi⟩ := h
    exact .inr ⟨t, r, hi, take_await hi⟩
  · exact .inl (take_await_idle fun t r hi => h ⟨t, r, hi⟩)

end Equations

inductive Change (u : Survey) : Survey → Prop
  | idle : Change u u
  | hears {i : Nat} {t l call} (answer : Except Error (Page Json)) :
      u.scan.suppliers[i]? = some ⟨t, .listing l⟩ → l.request? t u.scan.project = some call →
      (∀ outcome, l.feed t answer ≠ .done outcome) →
      Change u ((u.hear i (call, answer)).setProgress i (.listing (l.feed t answer)))
  | opens {i : Nat} {t l call args} (answer : Except Error (Page Json)) :
      u.scan.suppliers[i]? = some ⟨t, .listing l⟩ → l.request? t u.scan.project = some call →
      l.feed t answer = .done (.ok args) →
      Change u (((u.hear i (call, answer)).openRunner i).setProgress i
        (.submitting u.scan.pool.runners.length args))
  | fails {i : Nat} {t l call f} (answer : Except Error (Page Json)) :
      u.scan.suppliers[i]? = some ⟨t, .listing l⟩ → l.request? t u.scan.project = some call →
      l.feed t answer = .done (.error f) →
      Change u (((u.hear i (call, answer)).send i t.name
        (Alert.ofListing? f.error t.name f.listed)).setProgress i
          (.finished (resultOf f.error (Alert.ofListing? f.error t.name f.listed))))
  | waits {i : Nat} {t r} : u.scan.suppliers[i]? = some ⟨t, .submitting r []⟩ →
      Change u ((u.act (.startWait r)).setProgress i (.waiting r))
  | refused {i : Nat} {t r args todo} :
      u.scan.suppliers[i]? = some ⟨t, .submitting r (args :: todo)⟩ →
      u.scan.pool.cancelled = true →
      Change u ((u.act (.drop r)).setProgress i (.finished (.error .cancelled)))
  | skips {i : Nat} {t r args todo} :
      u.scan.suppliers[i]? = some ⟨t, .submitting r (args :: todo)⟩ →
      u.scan.pool.isClosed r = true → Change u (u.setProgress i (.submitting r todo))
  | begins {i : Nat} {t r args todo} (ending : Ending State) :
      u.scan.suppliers[i]? = some ⟨t, .submitting r (args :: todo)⟩ →
      0 < u.scan.pool.free →
      Change u ((u.begin ⟨i, r, args, ending⟩).setProgress i (.submitting r todo))
  | awaits {i : Nat} {t r} : u.scan.suppliers[i]? = some ⟨t, .waiting r⟩ →
      (u.scan.pool.await r).settled? r = none → Change u (u.act (.await r))
  | gives_up {i : Nat} {t r e} : u.scan.suppliers[i]? = some ⟨t, .waiting r⟩ →
      (u.scan.pool.await r).settled? r = some (.error e) →
      Change u (((u.act (.await r)).send i t.name
        (Alert.ofReading? e t.name t.definition.forbiddenRead)).setProgress i
          (.finished (resultOf e (Alert.ofReading? e t.name t.definition.forbiddenRead))))
  | settles {i : Nat} {t r states} : u.scan.suppliers[i]? = some ⟨t, .waiting r⟩ →
      (u.scan.pool.await r).settled? r = some (.ok states) →
      Change u ((u.act (.await r)).setProgress i (.finished (readings t states)))
  | advances (k : Nat) : Change u (u.act (.advance k))
  | cancels : Change u (u.act .cancel)

theorem change_answer (i : Nat) (page : Except Error (Page Json)) (u : Survey) :
    Change u (u.take (.answer i page)) := by
  rcases answer_cases i page u with ⟨_, hsame⟩ | ⟨t, l, call, hi, hcall, _, hlisted⟩
  · rw [hsame]
    exact .idle
  · rw [hlisted]
    cases hfeed : l.feed t page with
    | done outcome =>
      cases outcome with
      | ok args => exact .opens page hi hcall hfeed
      | error f => exact .fails page hi hcall hfeed
    | first | below =>
      have hhears := Change.hears page hi hcall (by simp [hfeed])
      rwa [hfeed] at hhears

theorem change_submit (i : Nat) {gate : Gate} {free : Bool} (ending : Ending State)
    (hf : free = true → 0 < u.scan.pool.free) :
    Change u (u.take (.submit i gate free ending)) := by
  rcases submit_cases i gate free ending u with hsame | ⟨t, r, hi, hwaits⟩ |
    ⟨t, r, args, todo, hi, hmet⟩
  · rw [hsame]
    exact .idle
  · rw [hwaits]
    exact .waits hi
  · rw [hmet]
    have hfits := u.scan.pool.fits_lookFrom gate r hf
    generalize u.scan.pool.lookFrom gate r free = look at hfits
    cases look with
    | refused => exact .refused hi hfits
    | skipped => exact .skips hi hfits
    | accepted => exact .begins ending hi hfits
    | pending => exact .idle

theorem change_await (i : Nat) (u : Survey) : Change u (u.take (.await i)) := by
  rcases await_cases i u with hsame | ⟨t, r, hi, hwaited⟩
  · rw [hsame]
    exact .idle
  · rw [hwaited]
    cases hs : (u.scan.pool.await r).settled? r with
    | none => exact .awaits hi hs
    | some outcome =>
      cases outcome with
      | error e => exact .gives_up hi hs
      | ok states => exact .settles hi hs

theorem change_take {m : Move} (hm : u.Allows m) : Change u (u.take m) := by
  cases m with
  | answer i page => exact change_answer i page u
  | submit i gate free ending => exact change_submit i ending hm
  | await i => exact change_await i u
  | advance k => exact .advances k
  | cancel => exact .cancels

/-- A step is one act of the pool at most. -/
theorem change_pool (h : Change u v) :
    (v.scan.pool = u.scan.pool ∧ v.log.pool = u.log.pool) ∨
      ∃ m, v.scan.pool = u.scan.pool.act m ∧ v.log.pool = u.log.pool.note m u.scan.pool := by
  cases h with
  | idle | hears | fails | skips => exact .inl ⟨rfl, rfl⟩
  | opens => exact .inr ⟨.addRunner, rfl, rfl⟩
  | @waits i t r => exact .inr ⟨.startWait r, rfl, rfl⟩
  | @refused i t r => exact .inr ⟨.drop r, rfl, rfl⟩
  | @begins i t r args todo ending => exact .inr ⟨.accept r ⟨ending, .none⟩, rfl, rfl⟩
  | @awaits i t r | @gives_up i t r | @settles i t r => exact .inr ⟨.await r, rfl, rfl⟩
  | advances k => exact .inr ⟨.advance k, rfl, rfl⟩
  | cancels => exact .inr ⟨.cancel, rfl, rfl⟩

end Survey

end CloudInventory
