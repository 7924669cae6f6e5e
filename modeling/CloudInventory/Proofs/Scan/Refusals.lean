import CloudInventory.Proofs.Scan.Progress

/-! How a supplier ends. A refusal of the type's listing, or of its reads where they are allowed
to be refused, leaves an alert and no resources; every other failure leaves no alert and is the
supplier's own. -/

namespace CloudInventory

open Listing (Heard Refused PrerequisiteRefused)

theorem ResourceType.prerequisite_ne {t : ResourceType} {prerequisite : String}
    (h : t.definition.requires = some prerequisite) : prerequisite ≠ t.name := by
  cases t <;> simp [definition] at h <;> subst h <;> decide

section Messages

variable {t : ResourceType} {prerequisite : String}

theorem Alert.listingRefused_message_iff (h : t.definition.requires = some prerequisite)
    {listed : Option String} (hl : listed = some prerequisite ∨ listed = none) :
    (listingRefused t.name listed).message =
      s!"{ignoring t.name}. Listing {prerequisite} is forbidden." ↔ listed = some prerequisite := by
  rcases hl with rfl | rfl
  · simp [listingRefused, ResourceType.prerequisite_ne h]
  · cases t <;> simp [ResourceType.definition] at h <;> subst h <;> decide

theorem Alert.readingRefused_message (h : t.definition.requires = some prerequisite) :
    (readingRefused t.name).message ≠
      s!"{ignoring t.name}. Listing {prerequisite} is forbidden." := by
  cases t <;> simp [ResourceType.definition] at h <;> subst h <;> decide

theorem Alert.listingRefused_ignoresType (type : String) (listed : Option String) :
    (listingRefused type listed).ignoresType = true := by
  unfold listingRefused
  split
  · split <;> rfl
  · rfl

end Messages

namespace Survey

variable {project : String} {types : List ResourceType} {limit : Nat} {alerts : Alerts}
  {u : Survey} {i r : Nat} {t : ResourceType}

/-- The first read error that was recorded for a supplier is a refusal that its type allows. -/
def ReadRefused (project : String) (u : Survey) (i : Nat) (t : ResourceType) : Prop :=
  ∃ r args e, Listed project u i t r args ∧ (u.log.pool.errorsOf r).head? = some e ∧
    e.isForbidden = true ∧ t.definition.forbiddenRead = .ignoreType

def Hidden (project : String) (u : Survey) (i : Nat) (t : ResourceType) : Prop :=
  (∃ f, Refused t project (u.log.heardBy i) f) ∨ ReadRefused project u i t

/-- What a supplier has failed with: its listing, the first error of its reads, or a state that
does not have the shape of its type. -/
inductive FailedWith (project : String) (u : Survey) (i : Nat) (t : ResourceType) : Error → Prop
  | listing {f} : Heard t project (u.log.heardBy i) (.done (.error f)) →
      FailedWith project u i t f.error
  | reading {r args e} : Listed project u i t r args →
      (u.log.pool.errorsOf r).head? = some e → FailedWith project u i t e
  | shape {r args states e} : Listed project u i t r args →
      u.scan.pool.phase? r = some (.settled (.ok states)) → t.readStates states = .error e →
      FailedWith project u i t e

/-- The three ways in which a supplier ends. -/
inductive Ends (project : String) (u : Survey) (i : Nat) (t : ResourceType) :
    Except Error (List Resource) → Prop
  | found {resources} : u.log.sentBy i = [] → ¬Hidden project u i t →
      Ends project u i t (.ok resources)
  | hidden {alert} : u.log.sentBy i = [(t.name, alert)] → alert.ignoresType = true →
      Hidden project u i t →
      (∀ prerequisite, t.definition.requires = some prerequisite →
        (alert.message = s!"{Alert.ignoring t.name}. Listing {prerequisite} is forbidden." ↔
          PrerequisiteRefused t project (u.log.heardBy i))) →
      Ends project u i t (.ok [])
  | failed {e} : u.log.sentBy i = [] → ¬Hidden project u i t → FailedWith project u i t e →
      Ends project u i t (.error e)

theorem Listed.not_refused {args : List ReadArgs} (h : Listed project u i t r args)
    (f : ListingFailure) : ¬Refused t project (u.log.heardBy i) f :=
  h.heard.not_refused (by simp) f

theorem Listed.not_prerequisite {args : List ReadArgs} (h : Listed project u i t r args) :
    ¬PrerequisiteRefused t project (u.log.heardBy i) := by
  rintro ⟨before, walk, call, e, hheard, hcall, hex, he⟩
  exact h.not_refused ⟨e, _⟩ ⟨before, _, call, hheard, hcall, hex, he, rfl⟩

theorem Listed.runner_eq {args args' : List ReadArgs} {q : Nat}
    (ht : Tallies project types limit alerts u) (h : Listed project u i t r args)
    (h' : Listed project u i t q args') : r = q :=
  (List.getElem?_inj (List.getElem?_eq_some_iff.mp h.opened).1 ht.nodup).mp
    (h.opened.trans h'.opened.symm)

theorem Listed.hidden_iff {args : List ReadArgs} (ht : Tallies project types limit alerts u)
    (h : Listed project u i t r args) :
    Hidden project u i t ↔ ∃ e, (u.log.pool.errorsOf r).head? = some e ∧
      e.isForbidden = true ∧ t.definition.forbiddenRead = .ignoreType := by
  constructor
  · rintro (⟨f, hf⟩ | ⟨q, args', e, h', he⟩)
    · exact absurd hf (h.not_refused f)
    · obtain rfl := h.runner_eq ht h'
      exact ⟨e, he⟩
  · rintro ⟨e, he⟩
    exact .inr ⟨r, args, e, h, he⟩

theorem not_readRefused (h : i ∉ u.log.opened) : ¬ReadRefused project u i t := by
  rintro ⟨r, args, e, hlisted, _⟩
  exact h (List.mem_of_getElem? hlisted.opened)

theorem ends_of_unlisted {f : ListingFailure}
    (hheard : Heard t project (u.log.heardBy i) (.done (.error f))) (hopen : i ∉ u.log.opened)
    (hsent : u.log.sentBy i = alertsOf t (Alert.ofListing? f.error t.name f.listed)) :
    Ends project u i t (resultOf f.error (Alert.ofListing? f.error t.name f.listed)) := by
  rcases hheard.done_error with hrefused | ⟨hforb, hnone⟩
  · obtain ⟨_, _, _, _, _, _, hforb, _⟩ := id hrefused
    have halert : Alert.ofListing? f.error t.name f.listed =
        some (.listingRefused t.name f.listed) := by simp [Alert.ofListing?, hforb]
    rw [halert] at hsent ⊢
    refine .hidden hsent (Alert.listingRefused_ignoresType _ _) (.inl ⟨f, hrefused⟩) ?_
    intro prerequisite hp
    have hlisted := hrefused.listed_cases
    rw [hp] at hlisted
    exact (Alert.listingRefused_message_iff hp hlisted).trans (hrefused.listed_iff hp)
  · have halert : Alert.ofListing? f.error t.name f.listed = none := by
      simp [Alert.ofListing?, hforb]
    rw [halert] at hsent ⊢
    refine .failed hsent ?_ (.listing hheard)
    rintro (⟨g, hg⟩ | hread)
    · exact hnone g hg
    · exact not_readRefused hopen hread

theorem ends_of_error {args : List ReadArgs} {e : Error}
    (ht : Tallies project types limit alerts u) (hlisted : Listed project u i t r args)
    (hfirst : (u.log.pool.errorsOf r).head? = some e)
    (hsent : u.log.sentBy i =
      alertsOf t (Alert.ofReading? e t.name t.definition.forbiddenRead)) :
    Ends project u i t (resultOf e (Alert.ofReading? e t.name t.definition.forbiddenRead)) := by
  by_cases hallowed : t.definition.forbiddenRead = .ignoreType ∧ e.isForbidden = true
  · have halert : Alert.ofReading? e t.name t.definition.forbiddenRead =
        some (.readingRefused t.name) := if_pos hallowed
    rw [halert] at hsent ⊢
    have hhidden : Hidden project u i t :=
      (hlisted.hidden_iff ht).mpr ⟨e, hfirst, hallowed.2, hallowed.1⟩
    refine .hidden hsent rfl hhidden fun prerequisite hp => ?_
    exact iff_of_false (Alert.readingRefused_message hp) hlisted.not_prerequisite
  · have halert : Alert.ofReading? e t.name t.definition.forbiddenRead = none := if_neg hallowed
    rw [halert] at hsent ⊢
    refine .failed hsent (fun hhidden => hallowed ?_) (.reading hlisted hfirst)
    obtain ⟨d, hd, hforb, hpolicy⟩ := (hlisted.hidden_iff ht).mp hhidden
    rw [hfirst, Option.some.injEq] at hd
    exact ⟨hpolicy, hd ▸ hforb⟩

theorem Sound.ends (h : Sound project types limit alerts u)
    (hc : u.scan.pool.cancelled = false) {result : Except Error (List Resource)}
    (hi : u.scan.suppliers[i]? = some ⟨t, .finished result⟩) : Ends project u i t result := by
  have ht := h.tallies
  have hplaced : Placed project u i t (.finished result) := h.placed i _ hi
  cases hplaced with
  | unlisted hheard hopen hsent => exact ends_of_unlisted hheard hopen hsent
  | refused _ hcan => simp [hc] at hcan
  | gave_up hlisted hphase hsent =>
    exact ends_of_error ht hlisted (ht.pool.settled_error hc hphase) hsent
  | @settled r states hlisted hphase hsent =>
    have hshown : ¬Hidden project u i t := by
      intro hhidden
      obtain ⟨e, he, _⟩ := (hlisted.hidden_iff ht).mp hhidden
      simp [(ht.pool.settled_ok hphase).1] at he
    cases hread : t.readStates states with
    | error e =>
      simp only [readings, hread, Except.map]
      exact .failed hsent hshown (.shape hlisted hphase hread)
    | ok all =>
      simp only [readings, hread, Except.map]
      exact .found hsent hshown

end Survey

end CloudInventory
