import CloudInventory.Proofs.Text.Separators

/-! The lines of a text, by where they end. -/

namespace CloudInventory.Text

/-- A line ends with a line feed, or with a carriage return and a line feed; only the last may end
with the text instead, and then it is not empty. -/
inductive Lines : List Char → List (List Char) → Prop
  | none : Lines [] []
  | last {line : List Char} : line ≠ [] → '\n' ∉ line → Lines line [line]
  | lineFeed {line rest : List Char} {more : List (List Char)} : '\n' ∉ line →
      line.getLast? ≠ some '\r' → Lines rest more → Lines (line ++ '\n' :: rest) (line :: more)
  | carriageReturn {line rest : List Char} {more : List (List Char)} : '\n' ∉ line →
      Lines rest more → Lines (line ++ '\r' :: '\n' :: rest) (line :: more)

variable {cs line rest : List Char} {ls : List (List Char)}

theorem lines_of_not_mem (h : '\n' ∉ line) (hne : line ≠ []) : lines line = [line] := by
  obtain ⟨c, cs, rfl⟩ := List.exists_cons_of_ne_nil hne
  simp [lines, splitAt_of_not_mem h]

theorem lines_append (h : '\n' ∉ line) (rest : List Char) :
    lines (line ++ '\n' :: rest) = dropCarriageReturn line :: lines rest := by
  have hne := splitAt_ne_nil '\n' rest
  simp only [lines, splitAt_append h, List.dropLast_cons_of_ne_nil hne, List.map_cons,
    List.getLast?_cons_of_ne_nil hne]
  cases (splitAt '\n' rest).getLast? with
  | none => rfl
  | some last => cases last <;> rfl

theorem Lines.eq_lines (h : Lines cs ls) : ls = lines cs := by
  induction h with
  | none => rfl
  | last hne hline => exact (lines_of_not_mem hline hne).symm
  | lineFeed hline hlast _ ih => rw [lines_append hline, dropCarriageReturn, if_neg hlast, ih]
  | @carriageReturn line rest more hline _ ih =>
    have hreturned : '\n' ∉ line ++ ['\r'] := by simpa using hline
    rw [List.append_cons, lines_append hreturned, dropCarriageReturn,
      if_pos List.getLast?_concat, List.dropLast_concat, ih]

theorem lines_lines (cs : List Char) : Lines cs (lines cs) := by
  induction hlength : cs.length using Nat.strongRecOn generalizing cs with
  | ind n ih =>
    by_cases hmem : '\n' ∈ cs
    · obtain ⟨line, rest, rfl, hline⟩ := List.eq_append_cons_of_mem hmem
      have hrest := ih rest.length (by rw [← hlength]; simp; omega) rest rfl
      rw [lines_append hline, dropCarriageReturn]
      split
      · next hlast =>
        obtain ⟨front, rfl⟩ := List.getLast?_eq_some_iff.mp hlast
        rw [List.dropLast_concat, ← List.append_cons]
        exact .carriageReturn (fun h => hline (List.mem_append_left _ h)) hrest
      · next hlast => exact .lineFeed hline hlast hrest
    · by_cases hne : cs = []
      · subst hne
        exact .none
      · rw [lines_of_not_mem hmem hne]
        exact .last hne hmem

theorem lines_iff : Lines cs ls ↔ ls = lines cs :=
  ⟨Lines.eq_lines, fun h => h ▸ lines_lines cs⟩

/-! ### Texts of one line -/

variable {s t : String}

def OneLine (s : String) : Prop := '\n' ∉ s.toList

instance (s : String) : Decidable (OneLine s) := inferInstanceAs (Decidable (¬_))

theorem OneLine.append (h : OneLine s) (h' : OneLine t) : OneLine (s ++ t) := by
  rw [OneLine, String.toList_append, List.mem_append, not_or]
  exact ⟨h, h'⟩

theorem oneLine_ofList (h : '\n' ∉ cs) : OneLine (String.ofList cs) := by
  rwa [OneLine, String.toList_ofList]

theorem lineFeed_not_mem_replicate {c : Char} (h : c ≠ '\n') (n : Nat) :
    '\n' ∉ List.replicate n c :=
  fun hmem => h (List.eq_of_mem_replicate hmem).symm

theorem digitChar_ne_lineFeed : ∀ d < 16, Nat.digitChar d ≠ '\n' := by decide

theorem lineFeed_not_mem_toDigits {base : Nat} (h : 1 < base) (h' : base ≤ 16) (n : Nat) :
    '\n' ∉ Nat.toDigits base n := by
  induction n using Nat.strongRecOn with
  | ind n ih =>
    by_cases hn : n < base
    · rw [Nat.toDigits_of_lt_base hn, List.mem_singleton]
      exact (digitChar_ne_lineFeed n (by omega)).symm
    · have hlast := Nat.mod_lt n (Nat.lt_trans Nat.zero_lt_one h)
      have hrest := ih (n / base) (Nat.div_lt_self (by omega) h)
      rw [Nat.toDigits_of_base_le h (by omega), List.mem_append, List.mem_singleton, not_or]
      exact ⟨hrest, (digitChar_ne_lineFeed _ (by omega)).symm⟩

theorem oneLine_toString (n : Nat) : OneLine (toString n) :=
  oneLine_ofList (lineFeed_not_mem_toDigits (by decide) (by decide) n)

theorem splitAt_join {ls : List String} (h : ∀ l ∈ ls, OneLine l) :
    splitAt '\n' (String.join (ls.map (· ++ "\n"))).toList = ls.map String.toList ++ [[]] := by
  rw [String.toList_join]
  induction ls with
  | nil => rfl
  | cons l ls ih =>
    have hend : ("\n" : String).toList = ['\n'] := rfl
    rw [List.map_cons, List.flatMap_cons, String.toList_append, hend, List.append_assoc,
      List.singleton_append, splitAt_append (h l List.mem_cons_self),
      ih fun l hl => h l (List.mem_cons_of_mem _ hl)]
    rfl

end CloudInventory.Text
