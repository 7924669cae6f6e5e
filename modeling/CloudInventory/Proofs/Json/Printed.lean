import CloudInventory.Json.Skipper
import CloudInventory.Proofs.Json.Tokens
import Mathlib.Data.List.TakeWhile

/-! Printed values, lists and records, read back. A value that is restored is so at every level of
indentation, behind any space and before anything that may follow a value; a list of restored
values is restored, and so is a record of them whose keys are all known to its reader. -/

namespace CloudInventory.Json

open Reading (peekToken isSpace)

def Spaces (sp : List Char) : Prop := ∀ c ∈ sp, isSpace c = true

theorem Spaces.nil : Spaces [] := nofun

namespace Layout

variable {l : Layout}

theorem line_spaces (l : Layout) (level : Nat) : Spaces (l.line level) := by
  intro c hc
  unfold line at hc
  split at hc
  · rcases List.mem_cons.mp hc with rfl | hc
    · rfl
    · rw [List.eq_of_mem_replicate hc]
      rfl
  · cases hc

theorem colon_spaces (l : Layout) : ∃ sp, l.colon = ':' :: sp ∧ Spaces sp := by
  unfold colon
  split
  · refine ⟨[' '], rfl, fun c hc => ?_⟩
    rw [List.mem_singleton.mp hc]
    rfl
  · exact ⟨[], rfl, .nil⟩

/-- A closing bracket, on a line of its own or not. -/
theorem line_closed (l : Layout) (level : Nat) {c : Char} (hc : c ∈ closers) (rest : List Char) :
    Closed (l.line level ++ c :: rest) := by
  unfold line
  split
  · intro d hd
    obtain rfl : '\n' = d := by simpa using hd
    decide
  · intro d hd
    obtain rfl : c = d := by simpa using hd
    exact hc

end Layout

namespace Reads

variable {α : Type} {sp cs rest : List Char} {c : Char}

theorem peek (hsp : Spaces sp) (hc : isSpace c = false) (cs : List Char) :
    Reads peekToken (sp ++ c :: cs) (some c) (c :: cs) := by
  have hskip : (sp ++ c :: cs).dropWhile isSpace = c :: cs := by
    rw [List.dropWhile_append_of_pos hsp, List.dropWhile_cons_of_neg (by simp [hc])]
  have hspace : Reads Reading.skipSpace (sp ++ c :: cs) () (c :: cs) :=
    congrArg (fun cs => Except.ok ((), cs)) hskip
  exact hspace.bind ((Reads.get _).bind (.pure _ _))

theorem peek_end (hsp : Spaces sp) : Reads peekToken sp none [] := by
  have hskip : sp.dropWhile isSpace = [] := List.dropWhile_eq_nil_iff.mpr hsp
  have hspace : Reads Reading.skipSpace sp () [] :=
    congrArg (fun cs => Except.ok ((), cs)) hskip
  exact hspace.bind ((Reads.get _).bind (.pure _ _))

theorem drop (c : Char) (cs : List Char) : Reads Reading.drop (c :: cs) () cs := rfl

theorem word (cs rest : List Char) : Reads (Reading.word cs) (cs ++ rest) () rest := by
  induction cs with
  | nil => exact .pure _ _
  | cons c cs ih =>
    refine (Reads.get _).bind ?_
    rw [List.cons_append]
    simp only [if_true]
    exact (Reads.set _ _).bind ih

end Reads

/-- Read back, with the places below `depth` levels. -/
structure Restored (l : Layout) (depth : Nat) (v : Json) : Prop where
  opens : ∀ level, ∃ c cs, textAt l level v = c :: cs ∧ isSpace c = false ∧ c ≠ ']'
  reads : ∀ level fuel sp rest, 2 * (textAt l level v).length ≤ fuel → Spaces sp → Closed rest →
    Reads (readValue fuel depth) (sp ++ (textAt l level v ++ rest)) v rest

theorem isSpace_eq_false_of_isDigit {c : Char} (hc : c.isDigit = true) : isSpace c = false := by
  cases hs : isSpace c with
  | false => rfl
  | true =>
    simp only [isSpace, Bool.or_eq_true, beq_iff_eq] at hs
    rcases hs with ((rfl | rfl) | rfl) | rfl <;> cases hc

namespace Restored

variable {l : Layout} {depth : Nat}

theorem null : Restored l depth .null where
  opens _ := ⟨'n', _, rfl, rfl, by decide⟩
  reads level fuel sp rest hfuel hsp _ := by
    cases fuel with
    | zero => simp [textAt, scalarText] at hfuel
    | succ fuel =>
      rw [readValue.eq_def]
      refine (Reads.peek hsp rfl _).bind ((Reads.drop _ _).bind ?_)
      exact (Reads.word ['u', 'l', 'l'] rest).bind (.pure _ _)

theorem string (s : String) : Restored l depth (.string s) where
  opens _ := ⟨'"', _, rfl, rfl, by decide⟩
  reads level fuel sp rest hfuel hsp _ := by
    cases fuel with
    | zero => simp [textAt, scalarText, stringText] at hfuel
    | succ fuel =>
      rw [readValue.eq_def]
      refine (Reads.peek hsp rfl _).bind ((Reads.drop _ _).bind ?_)
      exact (readString_stringText s rest).bind (.pure _ _)

theorem nat {n : Nat} (hn : n < wordLimit) : Restored l depth (.nat n) := by
  have htext : ∀ level, textAt l level (.nat n) = Nat.toDigits 10 n := by
    intro level
    exact Nat.toList_repr
  obtain ⟨c, ds, hdigits⟩ := List.exists_cons_of_ne_nil (Nat.toDigits_ne_nil (n := n) (b := 10))
  have hc : c.isDigit = true :=
    Nat.isDigit_of_mem_toDigits (by decide) (by decide) (hdigits ▸ List.mem_cons_self)
  have hspace : isSpace c = false := isSpace_eq_false_of_isDigit hc
  refine ⟨fun level => ⟨c, ds, (htext level).trans hdigits, hspace, ?_⟩, ?_⟩
  · rintro rfl
    cases hc
  · intro level fuel sp rest hfuel hsp hrest
    rw [htext] at hfuel ⊢
    cases fuel with
    | zero => simp [hdigits] at hfuel
    | succ fuel =>
      rw [readValue.eq_def]
      have hpeek : Reads peekToken (sp ++ (Nat.toDigits 10 n ++ rest)) (some c)
          (Nat.toDigits 10 n ++ rest) := by
        rw [hdigits]
        exact Reads.peek hsp hspace _
      refine hpeek.bind ?_
      split
      case h_9 c' _ _ _ _ _ _ _ he =>
        obtain rfl := Option.some.inj he
        rw [if_pos hc]
        exact (readNumber_digits hn hrest).bind (.pure _ _)
      case h_1 he => cases he
      all_goals
        next he =>
          obtain rfl := Option.some.inj he
          cases hc

end Restored

section Lists

variable {l : Layout} {depth level level' fuel : Nat} {v : Json} {vs : List Json}
  {cs rest : List Char}

/-- What a list's text goes on with behind a value. -/
theorem itemsText_closed (l : Layout) (level level' : Nat) (vs : List Json) (rest : List Char) :
    Closed (itemsText l level vs ++ (l.line level' ++ ']' :: rest)) := by
  cases vs with
  | nil => exact l.line_closed level' (by decide) rest
  | cons v vs =>
    intro c hc
    obtain rfl : ',' = c := by simpa [itemsText] using hc
    decide

theorem moreItems_end (first : Bool) {sp : List Char} (hsp : Spaces sp) (rest : List Char) :
    Reads (moreItems first) (sp ++ ']' :: rest) false rest :=
  (Reads.peek hsp rfl rest).bind ((Reads.drop _ _).bind (.pure _ _))

theorem moreItems_first (hv : Restored l depth v) (level : Nat) {sp : List Char} (hsp : Spaces sp)
    (rest : List Char) :
    Reads (moreItems true) (sp ++ (textAt l level v ++ rest)) true (textAt l level v ++ rest) := by
  obtain ⟨c, cs, htext, hspace, hc⟩ := hv.opens level
  rw [htext, List.cons_append]
  refine (Reads.peek hsp hspace (cs ++ rest)).bind ?_
  split
  · next he => cases he
  · next he => exact absurd (Option.some.inj he) hc
  · exact .pure _ _

theorem moreItems_next (hv : Restored l depth v) (level : Nat) {sp : List Char} (hsp : Spaces sp)
    (rest : List Char) : Reads (moreItems false) (',' :: (sp ++ (textAt l level v ++ rest))) true
      (textAt l level v ++ rest) := by
  obtain ⟨c, cs, htext, hspace, hc⟩ := hv.opens level
  rw [htext, List.cons_append]
  refine (Reads.peek .nil rfl _).bind ((Reads.drop _ _).bind ?_)
  refine (Reads.peek hsp hspace (cs ++ rest)).bind ?_
  split
  · next he => exact absurd (Option.some.inj he) hc
  · exact .pure _ _
  · next he => cases he

theorem readItems_itemsText (hvs : ∀ v ∈ vs, Restored l depth v) (level level' : Nat)
    (rest : List Char) (hfuel : 2 * (itemsText l level vs).length < fuel) :
    Reads (readItems fuel depth false) (itemsText l level vs ++ (l.line level' ++ ']' :: rest))
      vs rest := by
  induction vs generalizing fuel with
  | nil =>
    obtain ⟨fuel, rfl⟩ := Nat.exists_eq_succ_of_ne_zero (Nat.ne_of_gt (Nat.zero_lt_of_lt hfuel))
    rw [readItems]
    exact (moreItems_end false (l.line_spaces level') rest).bind (.pure _ _)
  | cons v vs ih =>
    obtain ⟨fuel, rfl⟩ := Nat.exists_eq_succ_of_ne_zero (Nat.ne_of_gt (Nat.zero_lt_of_lt hfuel))
    simp only [itemsText, List.length_cons, List.length_append] at hfuel
    have hv : Restored l depth v := hvs v List.mem_cons_self
    have hclosed := itemsText_closed l level level' vs rest
    have hvalue := hv.reads level fuel [] _ (by omega) .nil hclosed
    have hrest : Reads (readItems fuel depth false) _ vs rest :=
      ih (fun v' hv' => hvs v' (List.mem_cons_of_mem _ hv')) (by omega)
    rw [readItems]
    simp only [itemsText, List.cons_append, List.append_assoc]
    refine (moreItems_next hv level (l.line_spaces level) _).bind ?_
    exact hvalue.bind (hrest.bind (.pure _ _))

theorem Restored.array (hvs : ∀ v ∈ vs, Restored l depth v) :
    Restored l (depth + 1) (.array vs) where
  opens level := by
    cases vs with
    | nil => exact ⟨'[', _, rfl, rfl, by decide⟩
    | cons v vs => exact ⟨'[', _, rfl, rfl, by decide⟩
  reads level fuel sp rest hfuel hsp _ := by
    cases vs with
    | nil =>
      obtain ⟨fuel, rfl⟩ : ∃ k, fuel = k + 1 + 1 :=
        ⟨fuel - 2, by simp [textAt, scalarText] at hfuel; omega⟩
      rw [readValue.eq_def]
      refine (Reads.peek hsp rfl _).bind ((Reads.drop _ _).bind ?_)
      rw [readItems]
      refine Reads.bind ?_ (.pure _ _)
      exact (moreItems_end true .nil rest).bind (.pure _ _)
    | cons v vs =>
      simp only [textAt, List.length_cons, List.length_append] at hfuel
      obtain ⟨fuel, rfl⟩ : ∃ k, fuel = k + 1 + 1 := ⟨fuel - 2, by omega⟩
      have hv : Restored l depth v := hvs v List.mem_cons_self
      have hclosed := itemsText_closed l (level + 1) level vs rest
      have hvalue := hv.reads (level + 1) fuel [] _ (by omega) .nil hclosed
      have hrest : Reads (readItems fuel depth false) _ vs rest :=
        readItems_itemsText (fun v' hv' => hvs v' (List.mem_cons_of_mem _ hv')) (level + 1) level
          rest (by omega)
      rw [readValue.eq_def, textAt]
      simp only [List.cons_append, List.append_assoc, List.nil_append]
      refine (Reads.peek hsp rfl _).bind ((Reads.drop _ _).bind ?_)
      rw [readItems]
      refine Reads.bind ?_ (.pure _ _)
      refine (moreItems_first hv (level + 1) (l.line_spaces (level + 1)) _).bind ?_
      exact hvalue.bind (hrest.bind (.pure _ _))

end Lists

section Records

variable {l : Layout} {depth level level' fuel : Nat} {known : List String}
  {entries : List (String × Json)} {rest : List Char}

theorem entriesText_closed (l : Layout) (level level' : Nat) (entries : List (String × Json))
    (rest : List Char) :
    Closed (entriesText l level entries ++ (l.line level' ++ '\x7d' :: rest)) := by
  cases entries with
  | nil => exact l.line_closed level' (by decide) rest
  | cons e entries =>
    intro c hc
    obtain rfl : ',' = c := by simpa [entriesText] using hc
    decide

theorem nextKey_end (first : Bool) {sp : List Char} (hsp : Spaces sp) (rest : List Char) :
    Reads (nextKey first) (sp ++ '\x7d' :: rest) none rest :=
  (Reads.peek hsp rfl rest).bind ((Reads.drop _ _).bind (.pure _ _))

theorem readColon_colon (l : Layout) : ∃ sp, Spaces sp ∧ ∀ rest,
    Reads readColon (l.colon ++ rest) () (sp ++ rest) := by
  obtain ⟨sp, hcolon, hsp⟩ := l.colon_spaces
  refine ⟨sp, hsp, fun rest => ?_⟩
  rw [hcolon]
  exact (Reads.peek .nil rfl (sp ++ rest)).bind (Reads.drop _ _)

/-- A key with its colon, the reader being at its quote. -/
theorem key_stringText (l : Layout) (k : String) : ∃ sp, Spaces sp ∧ ∀ rest,
    Reads nextKey.key (stringText k ++ (l.colon ++ rest)) (some k) (sp ++ rest) := by
  obtain ⟨sp, hsp, hcolon⟩ := readColon_colon l
  refine ⟨sp, hsp, fun rest => ?_⟩
  refine (Reads.drop _ _).bind ?_
  exact (readString_stringText k _).bind ((hcolon rest).bind (.pure _ _))

/-- The next key, behind a comma unless it is the first. -/
theorem nextKey_stringText (l : Layout) (level : Nat) (k : String) : ∃ sp, Spaces sp ∧
    ∀ rest, Reads (nextKey true) (l.line level ++ (stringText k ++ (l.colon ++ rest))) (some k)
        (sp ++ rest) ∧
      Reads (nextKey false) (',' :: (l.line level ++ (stringText k ++ (l.colon ++ rest)))) (some k)
        (sp ++ rest) := by
  obtain ⟨sp, hsp, hkey⟩ := key_stringText l k
  refine ⟨sp, hsp, fun rest => ⟨?_, ?_⟩⟩
  · exact (Reads.peek (l.line_spaces level) rfl _).bind (hkey rest)
  · refine (Reads.peek .nil rfl _).bind ((Reads.drop _ _).bind ?_)
    exact (Reads.peek (l.line_spaces level) rfl _).bind (hkey rest)

/-- An entry under a known key. -/
theorem readKnownEntries_entry {first : Bool} {k : String} {v : Json} {cs sp mid : List Char}
    (hknown : k ∈ known)
    (hkey : Reads (nextKey first) cs (some k) (sp ++ (textAt l level v ++ mid)))
    (hsp : Spaces sp) (hv : Restored l depth v) (hmid : Closed mid)
    (hfuel : 2 * (textAt l level v).length ≤ fuel)
    (hrest : Reads (readKnownEntries known fuel depth false) mid entries rest) :
    Reads (readKnownEntries known (fuel + 1) depth first) cs ((k, v) :: entries) rest := by
  rw [readKnownEntries]
  refine hkey.bind ?_
  simp only [List.contains_iff_mem.mpr hknown, if_true]
  exact (hv.reads level fuel sp mid hfuel hsp hmid).bind (hrest.bind (.pure _ _))

theorem readKnownEntries_entriesText (hentries : ∀ e ∈ entries, e.1 ∈ known ∧ Restored l depth e.2)
    (level level' : Nat) (rest : List Char)
    (hfuel : 2 * (entriesText l level entries).length < fuel) :
    Reads (readKnownEntries known fuel depth false)
      (entriesText l level entries ++ (l.line level' ++ '\x7d' :: rest)) entries rest := by
  induction entries generalizing fuel with
  | nil =>
    obtain ⟨fuel, rfl⟩ := Nat.exists_eq_succ_of_ne_zero (Nat.ne_of_gt (Nat.zero_lt_of_lt hfuel))
    rw [readKnownEntries]
    exact (nextKey_end false (l.line_spaces level') rest).bind (.pure _ _)
  | cons e entries ih =>
    obtain ⟨k, v⟩ := e
    obtain ⟨fuel, rfl⟩ := Nat.exists_eq_succ_of_ne_zero (Nat.ne_of_gt (Nat.zero_lt_of_lt hfuel))
    simp only [entriesText, List.length_cons, List.length_append] at hfuel
    obtain ⟨hknown, hv⟩ := hentries (k, v) List.mem_cons_self
    obtain ⟨sp, hsp, hkey⟩ := nextKey_stringText l level k
    have hrest : Reads (readKnownEntries known fuel depth false) _ entries rest :=
      ih (fun e he => hentries e (List.mem_cons_of_mem _ he)) (by omega)
    simp only [entriesText, List.cons_append, List.append_assoc]
    have hclosed := entriesText_closed l level level' entries rest
    exact readKnownEntries_entry hknown (hkey _).2 hsp hv hclosed (by omega) hrest

/-- A printed record is read back entry by entry, behind its opening brace. -/
theorem readKnownEntries_object {e : String × Json}
    (hentries : ∀ e' ∈ e :: entries, e'.1 ∈ known ∧ Restored l depth e'.2) (level : Nat)
    (rest : List Char)
    (hfuel : 2 * (textAt l level (.object (e :: entries))).length ≤ fuel) :
    ∃ cs, textAt l level (.object (e :: entries)) = '\x7b' :: cs ∧
      Reads (readKnownEntries known fuel depth true) (cs ++ rest) (e :: entries) rest := by
  obtain ⟨k, v⟩ := e
  refine ⟨_, rfl, ?_⟩
  simp only [textAt, List.length_cons, List.length_append] at hfuel
  obtain ⟨fuel, rfl⟩ : ∃ m, fuel = m + 1 := ⟨fuel - 1, by omega⟩
  obtain ⟨hknown, hv⟩ := hentries (k, v) List.mem_cons_self
  obtain ⟨sp, hsp, hkey⟩ := nextKey_stringText l (level + 1) k
  have hrest : Reads (readKnownEntries known fuel depth false) _ entries rest :=
    readKnownEntries_entriesText (fun e he => hentries e (List.mem_cons_of_mem _ he)) (level + 1)
      level rest (by omega)
  simp only [List.append_assoc, List.cons_append, List.nil_append]
  exact readKnownEntries_entry hknown (hkey _).1 hsp hv
    (entriesText_closed l (level + 1) level entries rest) (by omega) hrest

end Records

end CloudInventory.Json
