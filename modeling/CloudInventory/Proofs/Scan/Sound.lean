import CloudInventory.Proofs.Scan.Tallies

/-! Where each supplier of a scan stands. Its listing is what its exchanges make of it; once the
listing is done it has one runner, and of the listed resources that it has submitted it has begun
every one, in their order, unless the runner is closed. -/

namespace CloudInventory.Survey

open Listing (Heard)

variable {project : String} {types : List ResourceType} {limit : Nat} {alerts : Alerts}
  {u v w : Survey} {i j r : Nat} {t : ResourceType} {progress : Progress}

def alertsOf (t : ResourceType) (alert? : Option Alert) : List (String × Alert) :=
  alert?.toList.map (t.name, ·)

/-- A supplier that has listed its type, and the runner of its reads. -/
structure Listed (project : String) (u : Survey) (i : Nat) (t : ResourceType) (r : Nat)
    (args : List ReadArgs) : Prop where
  opened : u.log.opened[r]? = some i
  heard : Heard t project (u.log.heardBy i) (.done (.ok args))
  begun : ((u.log.begunBy i).map (·.args)).Sublist args

theorem Listed.act {args : List ReadArgs} (h : Listed project u i t r args)
    (m : Pool.Act State) : Listed project (u.act m) i t r args := ⟨h.opened, h.heard, h.begun⟩

/-- What a supplier has begun of the resources that it has submitted. -/
structure Submitted (u : Survey) (i r : Nat) (past : List ReadArgs) : Prop where
  begun : ((u.log.begunBy i).map (·.args)).Sublist past
  complete : u.scan.pool.isClosed r = false → (u.log.begunBy i).map (·.args) = past

inductive Placed (project : String) (u : Survey) (i : Nat) (t : ResourceType) : Progress → Prop
  | listing {l} : Heard t project (u.log.heardBy i) l → (∀ outcome, l ≠ .done outcome) →
      i ∉ u.log.opened → u.log.sentBy i = [] → Placed project u i t (.listing l)
  | submitting {r past todo} : Listed project u i t r (past ++ todo) →
      u.scan.pool.phase? r = some .collecting → Submitted u i r past → u.log.sentBy i = [] →
      Placed project u i t (.submitting r todo)
  | waiting {r args} : Listed project u i t r args → u.scan.pool.phase? r = some .waiting →
      Submitted u i r args → u.log.sentBy i = [] → Placed project u i t (.waiting r)
  | unlisted {f} : Heard t project (u.log.heardBy i) (.done (.error f)) → i ∉ u.log.opened →
      u.log.sentBy i = alertsOf t (Alert.ofListing? f.error t.name f.listed) →
      Placed project u i t
        (.finished (resultOf f.error (Alert.ofListing? f.error t.name f.listed)))
  | refused {r args} : Listed project u i t r args → u.scan.pool.cancelled = true →
      u.log.sentBy i = [] → Placed project u i t (.finished (.error .cancelled))
  | gave_up {r args e} : Listed project u i t r args →
      u.scan.pool.phase? r = some (.settled (.error e)) →
      u.log.sentBy i = alertsOf t (Alert.ofReading? e t.name t.definition.forbiddenRead) →
      Placed project u i t
        (.finished (resultOf e (Alert.ofReading? e t.name t.definition.forbiddenRead)))
  | settled {r states} : Listed project u i t r ((u.log.begunBy i).map (·.args)) →
      u.scan.pool.phase? r = some (.settled (.ok states)) → u.log.sentBy i = [] →
      Placed project u i t (.finished (readings t states))

/-- What a step leaves a supplier that it is not about. -/
structure Frame (i : Nat) (u v : Survey) : Prop where
  heard : v.log.heardBy i = u.log.heardBy i
  begun : v.log.begunBy i = u.log.begunBy i
  sent : v.log.sentBy i = u.log.sentBy i
  opened : ∀ r : Nat, u.log.opened[r]? = some i → v.log.opened[r]? = some i
  unopened : i ∉ u.log.opened → i ∉ v.log.opened
  phase : ∀ r : Nat, u.log.opened[r]? = some i → v.scan.pool.phase? r = u.scan.pool.phase? r
  closed : ∀ r, u.scan.pool.isClosed r = true → v.scan.pool.isClosed r = true
  cancelled : u.scan.pool.cancelled = true → v.scan.pool.cancelled = true

theorem Listed.frame {args : List ReadArgs} (h : Listed project u i t r args) (hf : Frame i u v) :
    Listed project v i t r args where
  opened := hf.opened r h.opened
  heard := hf.heard ▸ h.heard
  begun := hf.begun ▸ h.begun

theorem Submitted.frame {past : List ReadArgs} (h : Submitted u i r past) (hf : Frame i u v) :
    Submitted v i r past where
  begun := hf.begun ▸ h.begun
  complete hopen := by
    rw [hf.begun]
    refine h.complete (Bool.eq_false_iff.mpr fun hclosed => ?_)
    simp [hf.closed r hclosed] at hopen

theorem Submitted.act {past : List ReadArgs} (h : Submitted u i r past) (m : Pool.Act State) :
    Submitted (u.act m) i r past where
  begun := h.begun
  complete hopen := h.complete (Pool.isClosed_of_act m hopen)

theorem Submitted.skip {past : List ReadArgs} (h : Submitted u i r past)
    (hc : u.scan.pool.isClosed r = true) (args : ReadArgs) :
    Submitted u i r (past ++ [args]) where
  begun := h.begun.trans (List.sublist_append_left _ _)
  complete hopen := by simp [hc] at hopen

theorem Submitted.begin {past : List ReadArgs} {b : Read} (h : Submitted u b.supplier r past) :
    Submitted (u.begin b) b.supplier r (past ++ [b.args]) where
  begun := by simpa using h.begun.append_right [b.args]
  complete hopen := by
    simp [h.complete (Pool.isClosed_of_act (.accept b.runner ⟨b.ending, .none⟩) hopen)]

theorem Placed.frame (h : Placed project u i t progress) (hf : Frame i u v) :
    Placed project v i t progress := by
  cases h with
  | listing hheard hl hopen hsent =>
    exact .listing (hf.heard ▸ hheard) hl (hf.unopened hopen) (hf.sent ▸ hsent)
  | submitting hlisted hphase hpast hsent =>
    exact .submitting (hlisted.frame hf) ((hf.phase _ hlisted.opened).trans hphase)
      (hpast.frame hf) (hf.sent ▸ hsent)
  | waiting hlisted hphase hpast hsent =>
    exact .waiting (hlisted.frame hf) ((hf.phase _ hlisted.opened).trans hphase)
      (hpast.frame hf) (hf.sent ▸ hsent)
  | unlisted hheard hopen hsent =>
    exact .unlisted (hf.heard ▸ hheard) (hf.unopened hopen) (hf.sent ▸ hsent)
  | refused hlisted hc hsent =>
    exact .refused (hlisted.frame hf) (hf.cancelled hc) (hf.sent ▸ hsent)
  | gave_up hlisted hphase hsent =>
    exact .gave_up (hlisted.frame hf) ((hf.phase _ hlisted.opened).trans hphase) (hf.sent ▸ hsent)
  | settled hlisted hphase hsent =>
    exact .settled (hf.begun ▸ hlisted.frame hf) ((hf.phase _ hlisted.opened).trans hphase)
      (hf.sent ▸ hsent)

namespace Frame

theorem trans (h : Frame i u v) (h' : Frame i v w) : Frame i u w where
  heard := h'.heard.trans h.heard
  begun := h'.begun.trans h.begun
  sent := h'.sent.trans h.sent
  opened r hr := h'.opened r (h.opened r hr)
  unopened hi := h'.unopened (h.unopened hi)
  phase r hr := (h'.phase r (h.opened r hr)).trans (h.phase r hr)
  closed r hr := h'.closed r (h.closed r hr)
  cancelled hc := h'.cancelled (h.cancelled hc)

theorem refl (i : Nat) (u : Survey) : Frame i u u :=
  ⟨rfl, rfl, rfl, fun _ h => h, id, fun _ _ => rfl, fun _ => id, id⟩

theorem setProgress (i j : Nat) (progress : Progress) (u : Survey) :
    Frame j u (u.setProgress i progress) :=
  ⟨rfl, rfl, rfl, fun _ h => h, id, fun _ _ => rfl, fun _ => id, id⟩

theorem hear (h : i ≠ j) (x : Exchange) (u : Survey) : Frame j u (u.hear i x) where
  heard := by simp [h]
  begun := rfl
  sent := rfl
  opened _ hr := hr
  unopened := id
  phase _ _ := rfl
  closed _ := id
  cancelled := id

theorem send (h : i ≠ j) (type : String) (alert? : Option Alert) (u : Survey) :
    Frame j u (u.send i type alert?) where
  heard := rfl
  begun := rfl
  sent := by simp [h]
  opened _ hr := hr
  unopened := id
  phase _ _ := rfl
  closed _ := id
  cancelled := id

theorem act (m : Pool.Act State) (u : Survey)
    (h : ∀ r : Nat, u.log.opened[r]? = some j →
      (u.scan.pool.act m).phase? r = u.scan.pool.phase? r) :
    Frame j u (u.act m) where
  heard := rfl
  begun := rfl
  sent := rfl
  opened _ hr := hr
  unopened := id
  phase := h
  closed _ hr := Pool.isClosed_act m hr
  cancelled hc := Pool.cancelled_act m hc

theorem openRunner (h : i ≠ j) (hu : u.log.opened.length = u.scan.pool.runners.length) :
    Frame j u (u.openRunner i) where
  heard := rfl
  begun := rfl
  sent := rfl
  opened r hr := by
    simp only [log_openRunner, Scan.Log.openRunner]
    rwa [List.getElem?_append_left (List.getElem?_eq_some_iff.mp hr).1]
  unopened hj := by simpa [Scan.Log.openRunner, hj] using Ne.symm h
  phase r hr := Pool.phase?_addRunner (hu ▸ (List.getElem?_eq_some_iff.mp hr).1)
  closed _ hr := Pool.isClosed_act .addRunner hr
  cancelled := id

theorem begin {b : Read} (h : b.supplier ≠ j) (u : Survey) : Frame j u (u.begin b) where
  heard := rfl
  begun := by simp [h]
  sent := rfl
  opened _ hr := hr
  unopened := id
  phase _ _ := Pool.phase?_accept _
  closed _ hr := Pool.isClosed_act (.accept b.runner ⟨b.ending, .none⟩) hr
  cancelled := id

end Frame

structure Sound (project : String) (types : List ResourceType) (limit : Nat) (alerts : Alerts)
    (u : Survey) : Prop where
  tallies : Tallies project types limit alerts u
  placed : ∀ (i : Nat) p, u.scan.suppliers[i]? = some p → Placed project u i p.type p.progress

namespace Sound

theorem start (project : String) (types : List ResourceType) (limit : Nat) (alerts : Alerts) :
    Sound project types limit alerts (start project types limit alerts) where
  tallies := .start project types limit alerts
  placed i p hp := by
    obtain ⟨t, _, rfl⟩ := Option.map_eq_some_iff.mp (List.getElem?_map.symm.trans hp)
    exact .listing .start (by simp [Listing.start]) (by simp [Survey.start, Scan.Log.empty]) rfl

theorem of_frame (h : Sound project types limit alerts u)
    (hw : Tallies project types limit alerts w) (hs : w.scan.suppliers = u.scan.suppliers)
    (hf : ∀ (i : Nat) p, u.scan.suppliers[i]? = some p → Frame i u w) :
    Sound project types limit alerts w where
  tallies := hw
  placed i p hp := by
    rw [hs] at hp
    exact (h.placed i p hp).frame (hf i p hp)

theorem update (h : Sound project types limit alerts u)
    (hw : Tallies project types limit alerts w) (hs : w.scan.suppliers = u.scan.suppliers)
    {old : Progress} (hi : u.scan.suppliers[i]? = some ⟨t, old⟩)
    (hf : ∀ j, i ≠ j → Frame j u w) (hnew : Placed project w i t progress) :
    Sound project types limit alerts (w.setProgress i progress) where
  tallies := hw.setProgress i progress
  placed j p hp := by
    simp only [Survey.setProgress, Scan.setProgress, hs, List.getElem?_modify] at hp
    by_cases hij : i = j
    · subst hij
      obtain rfl : (⟨t, progress⟩ : Supplier) = p := by simpa [hi] using hp
      exact hnew.frame (.setProgress i i progress w)
    · have hold : u.scan.suppliers[j]? = some p := by simpa [hij] using hp
      exact ((h.placed j p hold).frame (hf j hij)).frame (.setProgress i j progress w)

theorem runner_ne (hi : u.log.opened[r]? = some i) (hij : i ≠ j) {q : Nat}
    (hq : u.log.opened[q]? = some j) : r ≠ q := by
  rintro rfl
  exact hij (Option.some.inj (hi.symm.trans hq))

theorem begunBy_eq_nil (h : Tallies project types limit alerts u) (hi : i ∉ u.log.opened) :
    u.log.begunBy i = [] := by
  refine List.filter_eq_nil_iff.mpr fun b hb he => hi ?_
  exact List.mem_of_getElem? ((h.begun b hb).trans (by rw [eq_of_beq he]))

section Listings

variable {l : Listing} {call : ListRequest × Option String} {answer : Except Error (Page Json)}

theorem hears (h : Sound project types limit alerts u)
    (hi : u.scan.suppliers[i]? = some ⟨t, .listing l⟩)
    (hcall : l.request? t u.scan.project = some call)
    (hfeed : ∀ outcome, l.feed t answer ≠ .done outcome) :
    Sound project types limit alerts
      ((u.hear i (call, answer)).setProgress i (.listing (l.feed t answer))) := by
  have hplaced : Placed project u i t (.listing l) := h.placed i _ hi
  cases hplaced with
  | listing hheard _ hopen hsent =>
    rw [h.tallies.project] at hcall
    refine h.update (h.tallies.hear i _) rfl hi (fun j hij => .hear hij _ u) ?_
    exact .listing (by simpa using hheard.next answer hcall) hfeed hopen hsent

theorem opens (h : Sound project types limit alerts u) {args : List ReadArgs}
    (hi : u.scan.suppliers[i]? = some ⟨t, .listing l⟩)
    (hcall : l.request? t u.scan.project = some call) (hfeed : l.feed t answer = .done (.ok args)) :
    Sound project types limit alerts (((u.hear i (call, answer)).openRunner i).setProgress i
      (.submitting u.scan.pool.runners.length args)) := by
  have hplaced : Placed project u i t (.listing l) := h.placed i _ hi
  cases hplaced with
  | listing hheard _ hopen hsent =>
    rw [h.tallies.project] at hcall
    have htold := h.tallies.hear i (call, answer)
    refine h.update (htold.openRunner hopen) rfl hi
      (fun j hij => (Frame.hear hij _ u).trans (.openRunner hij htold.runners)) ?_
    have hbegun : u.log.begunBy i = [] := begunBy_eq_nil h.tallies hopen
    have hlisted : Listed project ((u.hear i (call, answer)).openRunner i) i t
        u.scan.pool.runners.length ([] ++ args) := {
      opened := by simp [Scan.Log.openRunner, Scan.Log.hear, ← h.tallies.runners]
      heard := by simpa [hfeed] using hheard.next answer hcall
      begun := by simp [hbegun] }
    exact .submitting hlisted Pool.phase?_addRunner_length
      ⟨by simp [hbegun], fun _ => by simp [hbegun]⟩ hsent

theorem fails (h : Sound project types limit alerts u) {f : ListingFailure}
    (hi : u.scan.suppliers[i]? = some ⟨t, .listing l⟩)
    (hcall : l.request? t u.scan.project = some call)
    (hfeed : l.feed t answer = .done (.error f)) :
    Sound project types limit alerts (((u.hear i (call, answer)).send i t.name
      (Alert.ofListing? f.error t.name f.listed)).setProgress i
        (.finished (resultOf f.error (Alert.ofListing? f.error t.name f.listed)))) := by
  have hplaced : Placed project u i t (.listing l) := h.placed i _ hi
  cases hplaced with
  | listing hheard _ hopen hsent =>
    rw [h.tallies.project] at hcall
    refine h.update ((h.tallies.hear i _).send hi _) rfl hi
      (fun j hij => (Frame.hear hij _ u).trans (.send hij _ _ _)) ?_
    exact .unlisted (by simpa [hfeed] using hheard.next answer hcall) hopen
      (by simp [hsent, alertsOf])

end Listings

section Submissions

variable {args : ReadArgs} {todo : List ReadArgs}

theorem waits (h : Sound project types limit alerts u)
    (hi : u.scan.suppliers[i]? = some ⟨t, .submitting r []⟩) :
    Sound project types limit alerts ((u.act (.startWait r)).setProgress i (.waiting r)) := by
  have hplaced : Placed project u i t (.submitting r []) := h.placed i _ hi
  cases hplaced with
  | @submitting _ past _ hlisted hphase hpast hsent =>
    refine h.update (h.tallies.act (m := .startWait r) hphase (by simp) (by simp)) rfl hi
      (fun j hij => .act _ u fun q hq =>
        Pool.phase?_startWait_of_ne (runner_ne hlisted.opened hij hq)) ?_
    rw [List.append_nil] at hlisted
    exact .waiting (hlisted.act _)
      (Pool.phase?_modifyRunner_inPhase (Pool.lt_of_phase?_eq_some hphase))
      (hpast.act _) hsent

theorem refused (h : Sound project types limit alerts u)
    (hi : u.scan.suppliers[i]? = some ⟨t, .submitting r todo⟩)
    (hc : u.scan.pool.cancelled = true) : Sound project types limit alerts
      ((u.act (.drop r)).setProgress i (.finished (.error .cancelled))) := by
  have hplaced : Placed project u i t (.submitting r todo) := h.placed i _ hi
  cases hplaced with
  | submitting hlisted hphase _ hsent =>
    refine h.update (h.tallies.act (m := .drop r) (.inl hphase) (by simp) (by simp)) rfl hi
      (fun j hij => .act _ u fun q hq =>
        Pool.phase?_drop_of_ne (runner_ne hlisted.opened hij hq)) ?_
    exact .refused (hlisted.act _) hc hsent

theorem skips (h : Sound project types limit alerts u)
    (hi : u.scan.suppliers[i]? = some ⟨t, .submitting r (args :: todo)⟩)
    (hc : u.scan.pool.isClosed r = true) :
    Sound project types limit alerts (u.setProgress i (.submitting r todo)) := by
  have hplaced : Placed project u i t (.submitting r (args :: todo)) := h.placed i _ hi
  cases hplaced with
  | submitting hlisted hphase hpast hsent =>
    rw [List.append_cons] at hlisted
    exact h.update h.tallies rfl hi (fun j _ => .refl j u)
      (.submitting hlisted hphase (hpast.skip hc args) hsent)

theorem begins (h : Sound project types limit alerts u) (ending : Ending State)
    (hi : u.scan.suppliers[i]? = some ⟨t, .submitting r (args :: todo)⟩)
    (hfree : 0 < u.scan.pool.free) : Sound project types limit alerts
      ((u.begin ⟨i, r, args, ending⟩).setProgress i (.submitting r todo)) := by
  have hplaced : Placed project u i t (.submitting r (args :: todo)) := h.placed i _ hi
  cases hplaced with
  | submitting hlisted hphase hpast hsent =>
    have hb := h.tallies.begin (b := ⟨i, r, args, ending⟩) hlisted.opened ⟨hphase, hfree⟩
    refine h.update hb rfl hi (fun j hij => .begin (b := ⟨i, r, args, ending⟩) hij u) ?_
    have hpast' := hpast.begin (b := ⟨i, r, args, ending⟩)
    rw [List.append_cons] at hlisted
    have hlisted' := Listed.mk (u := u.begin ⟨i, r, args, ending⟩) hlisted.opened hlisted.heard
      (hpast'.begun.trans (List.sublist_append_left _ todo))
    exact .submitting hlisted' ((Pool.phase?_accept _).trans hphase) hpast' hsent

end Submissions

section Waits

theorem awaits (h : Sound project types limit alerts u)
    (hs : (u.scan.pool.await r).settled? r = none) :
    Sound project types limit alerts (u.act (.await r)) := by
  refine h.of_frame (h.tallies.act (m := .await r) trivial (by simp) (by simp)) rfl fun j p _ =>
    .act _ u fun q hq => ?_
  by_cases hrq : r = q
  · subst hrq
    rcases Pool.phase?_await r u.scan.pool with hsame | ⟨_, outcome, hout⟩
    · exact hsame
    · rw [Pool.settled?_eq_some.mpr hout] at hs
      cases hs
  · exact Pool.phase?_await_of_ne hrq

theorem gives_up (h : Sound project types limit alerts u) {e : Error}
    (hi : u.scan.suppliers[i]? = some ⟨t, .waiting r⟩)
    (hs : (u.scan.pool.await r).settled? r = some (.error e)) :
    Sound project types limit alerts (((u.act (.await r)).send i t.name
      (Alert.ofReading? e t.name t.definition.forbiddenRead)).setProgress i
        (.finished (resultOf e (Alert.ofReading? e t.name t.definition.forbiddenRead)))) := by
  have hplaced : Placed project u i t (.waiting r) := h.placed i _ hi
  cases hplaced with
  | waiting hlisted _ _ hsent =>
    refine h.update ((h.tallies.act (m := .await r) trivial (by simp) (by simp)).send hi _) rfl hi
      (fun j hij => (Frame.act (.await r) u fun q hq => Pool.phase?_await_of_ne
        (runner_ne hlisted.opened hij hq)).trans (.send hij _ _ _)) ?_
    exact .gave_up ⟨hlisted.opened, hlisted.heard, hlisted.begun⟩
      (Pool.settled?_eq_some.mp hs) (by simp [hsent, alertsOf])

theorem settles (h : Sound project types limit alerts u) {states : List State}
    (hi : u.scan.suppliers[i]? = some ⟨t, .waiting r⟩)
    (hs : (u.scan.pool.await r).settled? r = some (.ok states)) :
    Sound project types limit alerts
      ((u.act (.await r)).setProgress i (.finished (readings t states))) := by
  have hplaced : Placed project u i t (.waiting r) := h.placed i _ hi
  cases hplaced with
  | waiting hlisted hphase hpast hsent =>
    have hset := Pool.settled?_eq_some.mp hs
    -- a runner that has been closed does not settle with values, so nothing was passed over
    have hall := hpast.complete (h.tallies.pool.not_closed_of_settles hphase hset)
    refine h.update (h.tallies.act (m := .await r) trivial (by simp) (by simp)) rfl hi
      (fun j hij => .act _ u fun q hq => Pool.phase?_await_of_ne
        (runner_ne hlisted.opened hij hq)) ?_
    exact .settled (hall ▸ hlisted.act _) hset hsent

end Waits

theorem change (h : Sound project types limit alerts u) (hc : Change u v) :
    Sound project types limit alerts v := by
  cases hc with
  | idle => exact h
  | hears answer hi hcall hfeed => exact h.hears hi hcall hfeed
  | opens answer hi hcall hfeed => exact h.opens hi hcall hfeed
  | fails answer hi hcall hfeed => exact h.fails hi hcall hfeed
  | waits hi => exact h.waits hi
  | refused hi hc => exact h.refused hi hc
  | skips hi hc => exact h.skips hi hc
  | begins ending hi hfree => exact h.begins ending hi hfree
  | awaits _ hs => exact h.awaits hs
  | gives_up hi hs => exact h.gives_up hi hs
  | settles hi hs => exact h.settles hi hs
  | advances k =>
    exact h.of_frame (h.tallies.act (m := .advance k) trivial (by simp) (by simp)) rfl
      fun i p _ => .act _ u fun _ _ => Pool.phase?_advance
  | cancels =>
    exact h.of_frame (h.tallies.act (m := .cancel) trivial (by simp) (by simp)) rfl
      fun i p _ => .act _ u fun _ _ => rfl

end Sound

theorem Reached.sound (h : Reached project types limit alerts u) :
    Sound project types limit alerts u := by
  induction h with
  | refl => exact .start project types limit alerts
  | tail _ hstep ih =>
    obtain ⟨m, hm, rfl⟩ := hstep
    exact ih.change (change_take hm)

end CloudInventory.Survey
