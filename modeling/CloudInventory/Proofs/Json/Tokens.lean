import CloudInventory.Json.Printer
import CloudInventory.Json.Reader

/-! Printed strings and whole numbers, read back whatever follows them in the text. -/

namespace CloudInventory.Json

/-- A reader takes the front of a text for a value and leaves the rest. -/
def Reads {α : Type} (r : Reading α) (cs : List Char) (a : α) (rest : List Char) : Prop :=
  r cs = .ok (a, rest)

namespace Reads

variable {α β : Type} {r : Reading α} {f : α → Reading β} {cs mid rest : List Char} {a : α} {b : β}

theorem pure (a : α) (cs : List Char) : Reads (Pure.pure a) cs a cs := rfl

theorem bind (h : Reads r cs a mid) (h' : Reads (f a) mid b rest) : Reads (r >>= f) cs b rest := by
  have hr : r cs = .ok (a, mid) := h
  simp only [Reads, Bind.bind, StateT.bind, hr, Except.bind]
  exact h'

theorem get (cs : List Char) : Reads MonadState.get cs cs cs := rfl

theorem set (cs rest : List Char) : Reads (MonadStateOf.set rest) cs PUnit.unit rest := rfl

end Reads

section Strings

variable {taken cs rest : List Char} {c : Char}

theorem hexUnit?_escapedChar : ∀ n < 32, hexUnit? '0' '0' (lowerHexDigit (n / 16))
    (lowerHexDigit (n % 16)) = some n := by decide

theorem stringBody_plain (hquote : c ≠ '"') (hback : c ≠ '\\') (hc : ¬c.toNat < 0x20) :
    stringBody taken .plain (c :: cs) = stringBody (c :: taken) .plain cs := by
  rw [stringBody, if_neg hquote, if_neg hback, if_neg hc]

theorem stringBody_control (hc : c.toNat < 0x20) :
    stringBody taken .plain ('\\' :: 'u' :: '0' :: '0' :: lowerHexDigit (c.toNat / 16) ::
      lowerHexDigit (c.toNat % 16) :: cs) = stringBody (c :: taken) .plain cs := by
  have hlow : isLowSurrogate c.toNat = false := by simp [isLowSurrogate]; omega
  have hhigh : isHighSurrogate c.toNat = false := by simp [isHighSurrogate]; omega
  simp [stringBody, hexUnit?_escapedChar c.toNat hc, hlow, hhigh, Char.ofNat_toNat]

theorem stringBody_escapedChar (c : Char) (taken cs : List Char) :
    stringBody taken .plain (escapedChar c ++ cs) = stringBody (c :: taken) .plain cs := by
  unfold escapedChar
  split
  case h_8 hquote hback _ _ _ _ _ =>
    split
    · next hc => exact stringBody_control hc
    · next hc => exact stringBody_plain hquote hback hc
  all_goals rfl

theorem stringBody_escaped (s taken rest : List Char) :
    stringBody taken .plain (s.flatMap escapedChar ++ '"' :: rest) =
      .ok (String.ofList (taken.reverse ++ s), rest) := by
  induction s generalizing taken with
  | nil => simp [stringBody]
  | cons c s ih => simp [stringBody_escapedChar, ih]

/-- A printed string is read back behind its opening quote. -/
theorem readString_stringText (s : String) (rest : List Char) :
    Reads readString ((s.toList.flatMap escapedChar ++ ['"']) ++ rest) s rest := by
  simpa [Reads, readString] using stringBody_escaped s.toList [] rest

end Strings

section Numbers

variable {ds rest : List Char} {significand n : Nat}

def closers : List Char := [',', '\n', ']', '\x7d']

/-- What follows a value in printed text. -/
def Closed (rest : List Char) : Prop := ∀ c ∈ rest.head?, c ∈ closers

theorem not_digit_of_closer {c : Char} (hc : c ∈ closers) : c.isDigit = false := by
  simp only [closers, List.mem_cons, List.not_mem_nil, or_false] at hc
  rcases hc with rfl | rfl | rfl | rfl <;> rfl

theorem Closed.not_digit (h : Closed rest) : rest.head?.any Char.isDigit = false := by
  cases rest with
  | nil => rfl
  | cons c rest => exact not_digit_of_closer (h c rfl)

theorem accumulate_closed (h : Closed rest) (significand : Nat) :
    accumulate significand rest = (significand, 0, rest) := by
  cases rest with
  | nil => rfl
  | cons c rest =>
    have hc : c.isDigit = false := by simpa using h.not_digit
    simp [accumulate, hc]

theorem le_ofDigitChars (ds : List Char) (significand : Nat) :
    significand ≤ Nat.ofDigitChars 10 ds significand := by
  induction ds generalizing significand with
  | nil => exact Nat.le_refl _
  | cons c ds ih =>
    have hrest := ih (10 * significand + (c.toNat - '0'.toNat))
    rw [Nat.ofDigitChars_cons]
    omega

theorem accumulate_digits (hds : ∀ d ∈ ds, d.isDigit = true)
    (hfits : Nat.ofDigitChars 10 ds significand < wordLimit) (h : Closed rest) :
    accumulate significand (ds ++ rest) =
      (Nat.ofDigitChars 10 ds significand, ds.length, rest) := by
  induction ds generalizing significand with
  | nil => exact accumulate_closed h significand
  | cons c ds ih =>
    rw [Nat.ofDigitChars_cons] at hfits ⊢
    have hvalue : significand * 10 + digitValue c = 10 * significand + (c.toNat - '0'.toNat) := by
      rw [Nat.mul_comm]
      rfl
    have hlt : significand * 10 + digitValue c < wordLimit :=
      hvalue ▸ Nat.lt_of_le_of_lt (le_ofDigitChars ds _) hfits
    have hrest : accumulate (significand * 10 + digitValue c) (ds ++ rest) =
        (Nat.ofDigitChars 10 ds (significand * 10 + digitValue c), ds.length, rest) :=
      ih (fun d hd => hds d (List.mem_cons_of_mem _ hd)) (hvalue ▸ hfits)
    rw [List.cons_append, accumulate, if_pos (hds c List.mem_cons_self), if_pos hlt, hrest, hvalue]
    rfl

/-- No number but zero is printed with a zero in front. -/
theorem toDigits_pos (h : 0 < n) :
    ∃ c ds, Nat.toDigits 10 n = c :: ds ∧ c ≠ '0' ∧ ∀ d ∈ c :: ds, d.isDigit = true := by
  have hdigits : ∀ d ∈ Nat.toDigits 10 n, d.isDigit = true := fun d hd =>
    Nat.isDigit_of_mem_toDigits (by decide) (by decide) hd
  suffices hfirst : ∃ c ds, Nat.toDigits 10 n = c :: ds ∧ c ≠ '0' by
    obtain ⟨c, ds, hn, hc⟩ := hfirst
    exact ⟨c, ds, hn, hc, hn ▸ hdigits⟩
  clear hdigits
  induction n using Nat.strongRecOn with
  | ind n ih =>
    by_cases hn : n < 10
    · refine ⟨n.digitChar, [], Nat.toDigits_of_lt_base hn, ?_⟩
      have hone : ∀ m < 10, 0 < m → m.digitChar ≠ '0' := by decide
      exact hone n hn h
    · obtain ⟨c, ds, hrest, hc⟩ := ih (n / 10) (by omega) (by omega)
      refine ⟨c, ds ++ [(n % 10).digitChar], ?_, hc⟩
      rw [Nat.toDigits_eq_if (by decide), if_neg hn, hrest, List.cons_append]

theorem afterInteger_closed (h : Closed rest) (significand : Nat) :
    Reads (afterInteger false significand) rest (.int significand) rest := by
  refine Reads.bind (.get rest) ?_
  cases rest with
  | nil => exact .pure _ _
  | cons c rest =>
    have hc := h c rfl
    simp only [closers, List.mem_cons, List.not_mem_nil, or_false] at hc
    rcases hc with rfl | rfl | rfl | rfl <;> exact .pure _ _

theorem takeDigits_closed (h : Closed rest) : Reads Reading.takeDigits rest [] rest := by
  cases rest with
  | nil => rfl
  | cons c rest =>
    have hc : c.isDigit = false := not_digit_of_closer (h c rfl)
    simp [Reads, Reading.takeDigits, hc]

theorem readNumber_digits (hn : n < wordLimit) (h : Closed rest) :
    Reads (readNumber false) (Nat.toDigits 10 n ++ rest) (.int n) rest := by
  refine Reads.bind (.get _) ?_
  by_cases hzero : n = 0
  · subst hzero
    rw [Nat.toDigits_zero, List.cons_append, List.nil_append]
    refine Reads.bind (.set _ _) ?_
    rw [if_neg (by simp [h.not_digit])]
    exact afterInteger_closed h 0
  · obtain ⟨c, ds, hdigits, hc, hall⟩ := toDigits_pos (Nat.pos_of_ne_zero hzero)
    have hvalue : Nat.ofDigitChars 10 ds (digitValue c) = n := by
      have hsame : Nat.ofDigitChars 10 (Nat.toDigits 10 n) 0 = n :=
        Nat.ofDigitChars_toDigits (by decide) (by decide)
      rw [hdigits, Nat.ofDigitChars_cons, Nat.mul_zero, Nat.zero_add] at hsame
      exact hsame
    have hrest : accumulate (digitValue c) (ds ++ rest) =
        (Nat.ofDigitChars 10 ds (digitValue c), ds.length, rest) :=
      accumulate_digits (fun d hd => hall d (List.mem_cons_of_mem _ hd)) (hvalue.symm ▸ hn) h
    rw [hdigits, List.cons_append]
    split
    · next he => cases he
    · next he => exact absurd (List.cons.inj he).1 hc
    · next c' rest' _ he =>
      obtain ⟨rfl, rfl⟩ := List.cons.inj he
      rw [if_pos (hall c List.mem_cons_self), hrest, hvalue]
      refine Reads.bind (.set _ _) (Reads.bind (takeDigits_closed h) ?_)
      exact afterInteger_closed h n

end Numbers

end CloudInventory.Json
