import CloudInventory.Error
import CloudInventory.Proofs.Text.Plain

/-! What a user is shown of an error. Of a failed call that is its status alone; of any other error
it is the message, as far as it can be printed and fits. -/

namespace CloudInventory.Error

open Text (Plain)

variable {text : String} {e : Error}

/-- The first plain characters of a text, at most 120 of them. -/
def plainFront (text : String) : String :=
  String.ofList ((text.toList.filter fun c => 0x20 ≤ c.toNat ∧ c.toNat ≤ 0x7E).take 120)

/-- A text with nothing to leave out. -/
def Fits (text : String) : Prop := Plain text ∧ text.length ≤ 120

instance (text : String) : Decidable (Fits text) := inferInstanceAs (Decidable (_ ∧ _))

theorem toList_plainFront (text : String) :
    (plainFront text).toList = (text.toList.filter Text.isPrintableAscii).take 120 := by
  rw [plainFront, String.toList_ofList, Text.filter_printable]

theorem plain_plainFront (text : String) : Plain (plainFront text) := by
  intro c hc
  rw [toList_plainFront] at hc
  exact Text.isPrintableAscii_iff.mp (List.mem_filter.mp (List.mem_of_mem_take hc)).2

theorem length_plainFront_le (text : String) : (plainFront text).length ≤ 120 := by
  rw [← String.length_toList, toList_plainFront]
  exact List.length_take_le _ _

theorem plainFront_eq_iff : plainFront text = text ↔ Fits text := by
  constructor
  · intro h
    rw [← h]
    exact ⟨plain_plainFront text, length_plainFront_le text⟩
  · rintro ⟨hplain, hlength⟩
    have hall : text.toList.filter Text.isPrintableAscii = text.toList :=
      List.filter_eq_self.mpr fun c hc => Text.isPrintableAscii_iff.mpr (hplain c hc)
    rw [← String.toList_inj, toList_plainFront, hall, List.take_of_length_le]
    rwa [String.length_toList]

theorem size_plainFront_lt_iff :
    (plainFront text).utf8ByteSize < text.utf8ByteSize ↔ ¬Fits text := by
  -- The front is a part of the text, so that it is smaller unless it is the whole.
  have hsub : (plainFront text).toList.Sublist text.toList := by
    rw [toList_plainFront]
    exact (List.take_sublist _ _).trans List.filter_sublist
  rw [← plainFront_eq_iff, ← Text.utf8Size_toList, ← Text.utf8Size_toList]
  constructor
  · intro hlt heq
    rw [heq] at hlt
    exact Nat.lt_irrefl _ hlt
  · intro hne
    by_contra hle
    exact hne (String.toList_inj.mp (Text.eq_of_sublist_of_size_le hsub (Nat.not_lt.mp hle)))

theorem abridged_eq (text : String) : abridged text =
    if (plainFront text).utf8ByteSize < text.utf8ByteSize then plainFront text ++ "..."
    else plainFront text := by
  have hfront : String.ofList ((text.toList.filter Text.isPrintableAscii).take descriptionLimit) =
      plainFront text := by
    rw [← String.toList_inj, toList_plainFront, String.toList_ofList]
    rfl
  simp only [abridged, hfront]

theorem abridged_of_fits (h : Fits text) : abridged text = text := by
  rw [abridged_eq, if_neg fun hlt => size_plainFront_lt_iff.mp hlt h, plainFront_eq_iff.mpr h]

theorem abridged_of_not_fits (h : ¬Fits text) : abridged text = plainFront text ++ "..." := by
  rw [abridged_eq, if_pos (size_plainFront_lt_iff.mpr h)]

/-- What may be shown: plain, and of at most 123 octets. -/
structure Harmless (text : String) : Prop where
  size : text.utf8ByteSize ≤ 123
  plain : Plain text

theorem harmless_abridged (text : String) : Harmless (abridged text) := by
  by_cases h : Fits text
  · have hlength := h.2
    rw [abridged_of_fits h]
    refine ⟨?_, h.1⟩
    rw [h.1.size]
    omega
  · have hlength := length_plainFront_le text
    have hdots : ("..." : String).length = 3 := rfl
    have hplain : Plain (plainFront text ++ "...") := (plain_plainFront text).append (by decide)
    rw [abridged_of_not_fits h]
    refine ⟨?_, hplain⟩
    rw [hplain.size, String.length_append]
    omega

theorem harmless_describeStatus (status : Nat) : Harmless (describeStatus status) := by
  unfold describeStatus
  split <;> exact ⟨by decide, by decide⟩

theorem harmless_describe (e : Error) : Harmless (describe e) := by
  unfold describe
  split
  · exact harmless_describeStatus _
  · exact ⟨by decide, by decide⟩
  · exact harmless_abridged _

/-- Neither a failed call nor a request that had no answer. -/
def IsInternal (e : Error) : Prop :=
  (∀ status url message, e ≠ .api status url message) ∧ ∀ fault, e ≠ .transport fault

theorem IsInternal.describe_eq (h : IsInternal e) : describe e = abridged e.message := by
  obtain ⟨hapi, htransport⟩ := h
  cases e with
  | api status url message => exact absurd rfl (hapi status url message)
  | transport fault => exact absurd rfl (htransport fault)
  | _ => rfl

/-- What is shown of an error is harmless. Two calls that failed with one status are shown alike,
whatever their addresses and messages; any other error than those of the network is shown as its
message where that fits, and else as the front of it with an ellipsis. -/
theorem shown_discreetly (e : Error) :
    Harmless (describe e) ∧
      (∀ status url url' message message',
        describe (.api status url message) = describe (.api status url' message')) ∧
      (IsInternal e → (Fits e.message → describe e = e.message) ∧
        (¬Fits e.message → describe e = plainFront e.message ++ "...")) := by
  refine ⟨harmless_describe e, fun _ _ _ _ _ => rfl, fun hinternal => ?_⟩
  rw [hinternal.describe_eq]
  exact ⟨abridged_of_fits, abridged_of_not_fits⟩

def taskFailure (n : Nat) : Error := .task (String.ofList (List.replicate n 'x'))

/-- The message of the first has 120 characters, that of the second one more, and that of the third
one that is not plain. -/
theorem taskFailure_shown :
    IsInternal (taskFailure 102) ∧ describe (taskFailure 102) = (taskFailure 102).message ∧
      describe (taskFailure 103) = (taskFailure 102).message ++ "..." ∧
      describe (.auth "clé") = "authentication error: cl..." := by
  have hinternal : ∀ e : Error, e.status? = none → (∀ fault, e ≠ .transport fault) →
      IsInternal e := by
    refine fun e hstatus htransport => ⟨fun status url message he => ?_, htransport⟩
    rw [he] at hstatus
    cases hstatus
  have htask : ∀ n, IsInternal (taskFailure n) := fun n => hinternal _ rfl (by simp [taskFailure])
  refine ⟨htask 102, ?_, ?_, ?_⟩
  · exact ((shown_discreetly _).2.2 (htask 102)).1 (by decide +kernel)
  · rw [((shown_discreetly _).2.2 (htask 103)).2 (by decide +kernel)]
    decide +kernel
  · rw [((shown_discreetly _).2.2 (hinternal (.auth "clé") rfl (by simp))).2 (by decide +kernel)]
    decide +kernel

end CloudInventory.Error
