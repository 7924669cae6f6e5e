import CloudInventory.Text.Blank

/-! Texts put together with a separator. A part that is free of it is found again, from the front
or from the back. -/

namespace CloudInventory.Text

variable {separator : Char} {cs : List Char}

theorem splitOnce_append (h : separator ∉ cs) (rest : List Char) :
    splitOnce separator (cs ++ separator :: rest) = some (cs, rest) := by
  induction cs with
  | nil => simp [splitOnce]
  | cons c cs ih =>
    obtain ⟨hc, hcs⟩ := not_or.mp (mt List.mem_cons.mpr h)
    rw [List.cons_append, splitOnce, if_neg (Ne.symm hc), ih hcs]
    rfl

theorem splitOnce_eq_none (h : separator ∉ cs) : splitOnce separator cs = none := by
  induction cs with
  | nil => rfl
  | cons c cs ih =>
    obtain ⟨hc, hcs⟩ := not_or.mp (mt List.mem_cons.mpr h)
    rw [splitOnce, if_neg (Ne.symm hc), ih hcs]
    rfl

variable {front front' back back' : List Char}

theorem splitOnce_eq_some_iff :
    splitOnce separator cs = some (front, back) ↔
      cs = front ++ separator :: back ∧ separator ∉ front := by
  constructor
  · intro h
    by_cases hmem : separator ∈ cs
    · obtain ⟨before, after, rfl, hbefore⟩ := List.eq_append_cons_of_mem hmem
      rw [splitOnce_append hbefore, Option.some.injEq, Prod.mk.injEq] at h
      obtain ⟨rfl, rfl⟩ := h
      exact ⟨rfl, hbefore⟩
    · rw [splitOnce_eq_none hmem] at h
      cases h
  · rintro ⟨rfl, hfront⟩
    exact splitOnce_append hfront back

theorem append_separator_inj (h : separator ∉ front) (h' : separator ∉ front') :
    front ++ separator :: back = front' ++ separator :: back' ↔ front = front' ∧ back = back' := by
  refine ⟨fun hsame => ?_, fun ⟨hfront, hback⟩ => by rw [hfront, hback]⟩
  have hsplit := splitOnce_append h back
  rw [hsame, splitOnce_append h' back', Option.some.injEq, Prod.mk.injEq] at hsplit
  exact ⟨hsplit.1.symm, hsplit.2.symm⟩

theorem append_last_separator_inj (h : separator ∉ back) (h' : separator ∉ back') :
    front ++ separator :: back = front' ++ separator :: back' ↔ front = front' ∧ back = back' := by
  rw [← List.reverse_inj]
  simp only [List.reverse_append, List.reverse_cons, List.append_assoc, List.singleton_append]
  rw [append_separator_inj (by simpa using h) (by simpa using h'), List.reverse_inj,
    List.reverse_inj, and_comm]

theorem splitAt_ne_nil (separator : Char) (cs : List Char) : splitAt separator cs ≠ [] := by
  cases cs with
  | nil => simp [splitAt]
  | cons c cs =>
    rw [splitAt]
    split
    · simp
    · split <;> simp

theorem splitAt_of_not_mem (h : separator ∉ cs) : splitAt separator cs = [cs] := by
  induction cs with
  | nil => rfl
  | cons c cs ih =>
    obtain ⟨hc, hcs⟩ := not_or.mp (mt List.mem_cons.mpr h)
    rw [splitAt, if_neg (Ne.symm hc), ih hcs]

theorem splitAt_append (h : separator ∉ front) (back : List Char) :
    splitAt separator (front ++ separator :: back) = front :: splitAt separator back := by
  induction front with
  | nil => rw [List.nil_append, splitAt, if_pos rfl]
  | cons c front ih =>
    obtain ⟨hc, hfront⟩ := not_or.mp (mt List.mem_cons.mpr h)
    rw [List.cons_append, splitAt, if_neg (Ne.symm hc), ih hfront]

end CloudInventory.Text
