import CloudInventory.Proofs.Dict
import CloudInventory.Proofs.Scan.Tallies

/-! The ledger of alerts after a scan: under each type stands what was sent for it, in order. -/

namespace CloudInventory

theorem ResourceType.name_inj {t t' : ResourceType} (h : t.name = t'.name) : t = t' := by
  cases t <;> cases t' <;> first | rfl | exact absurd h (by decide)

namespace Survey

/-- The alerts that were sent for a type. -/
def sentFor (type : String) (sent : List (Nat × (String × Alert))) : List Alert :=
  (sent.filter (·.2.1 = type)).map (·.2.2)

theorem sentFor_cons (type : String) (x : Nat × (String × Alert))
    (sent : List (Nat × (String × Alert))) : sentFor type (x :: sent) =
      if x.2.1 = type then x.2.2 :: sentFor type sent else sentFor type sent := by
  by_cases h : x.2.1 = type <;> simp [sentFor, h]

theorem sendAll_ascending {alerts : Alerts} (h : Dict.Ascending alerts)
    (sent : List (Nat × (String × Alert))) : Dict.Ascending (sendAll sent alerts) := by
  induction sent generalizing alerts with
  | nil => exact h
  | cons x sent ih => exact ih (h.update _ _ _)

theorem find?_sendAll (type : String) (sent : List (Nat × (String × Alert))) (alerts : Alerts) :
    Dict.find? type (sendAll sent alerts) =
      if sentFor type sent = [] then Dict.find? type alerts
      else some ((Dict.find? type alerts).getD [] ++ sentFor type sent) := by
  induction sent generalizing alerts with
  | nil => rfl
  | cons x sent ih =>
    obtain ⟨i, other, alert⟩ := x
    have hall : sendAll ((i, (other, alert)) :: sent) alerts =
        sendAll sent (alerts.send other alert) := rfl
    rw [hall, ih, Alerts.send, sentFor_cons]
    by_cases htype : other = type
    · subst htype
      rw [Dict.find?_update_self]
      by_cases hnil : sentFor other sent = [] <;> simp [hnil]
    · rw [Dict.find?_update_of_ne htype]
      simp only [htype, if_false]

theorem mem_of_find?_sendAll {type : String} {sent : List (Nat × (String × Alert))}
    (h : Dict.find? type (sendAll sent []) ≠ none) : ∃ x ∈ sent, x.2.1 = type := by
  have hne : sentFor type sent ≠ [] := by
    intro hnil
    rw [find?_sendAll, if_pos hnil] at h
    exact h rfl
  obtain ⟨alert, halert⟩ := List.exists_mem_of_ne_nil _ hne
  obtain ⟨x, hx, _⟩ := List.mem_map.mp halert
  exact ⟨x, List.mem_of_mem_filter hx, by simpa using (List.mem_filter.mp hx).2⟩

end Survey

end CloudInventory
