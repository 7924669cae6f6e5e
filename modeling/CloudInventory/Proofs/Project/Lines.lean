import CloudInventory.Project
import CloudInventory.Proofs.Text.Size

/-! The project that a file of settings names: by the first of its lines that does, the section
being the nearest head before the line. -/

namespace CloudInventory.Project

structure WellFormed (id : String) : Prop where
  length : 6 ≤ id.length ∧ id.length ≤ 30
  chars : ∀ c ∈ id.toList, 'a' ≤ c ∧ c ≤ 'z' ∨ '0' ≤ c ∧ c ≤ '9' ∨ c = '-'
  first : ∃ c, id.toList.head? = some c ∧ 'a' ≤ c ∧ c ≤ 'z'
  last : id.toList.getLast? ≠ some '-'

section Chars

variable {c : Char}

theorem isLower_iff : c.isLower = true ↔ 'a' ≤ c ∧ c ≤ 'z' :=
  Bool.and_eq_true_iff.trans (and_congr decide_eq_true_iff decide_eq_true_iff)

theorem isUpper_iff : c.isUpper = true ↔ 'A' ≤ c ∧ c ≤ 'Z' := decide_eq_true_iff

theorem isDigit_iff : c.isDigit = true ↔ '0' ≤ c ∧ c ≤ '9' :=
  Bool.and_eq_true_iff.trans (and_congr decide_eq_true_iff decide_eq_true_iff)

theorem isIdChar_iff :
    isIdChar c = true ↔ 'a' ≤ c ∧ c ≤ 'z' ∨ '0' ≤ c ∧ c ≤ '9' ∨ c = '-' := by
  simp only [isIdChar, Bool.or_eq_true, isLower_iff, isDigit_iff, beq_iff_eq, or_assoc]

theorem toNat_le_of_isIdChar (h : isIdChar c = true) : c.toNat ≤ 0x7F := by
  rcases isIdChar_iff.mp h with ⟨_, hle⟩ | ⟨_, hle⟩ | rfl
  · exact Nat.le_trans (Char.le_def.mp hle) (by decide)
  · exact Nat.le_trans (Char.le_def.mp hle) (by decide)
  · decide

end Chars

theorem isWellFormed_iff {id : String} : isWellFormed id = true ↔ WellFormed id := by
  have hchars : id.toList.all isIdChar = true ↔ ∀ c ∈ id.toList, isIdChar c = true :=
    List.all_eq_true
  have hfirst : id.toList.head?.any Char.isLower = true ↔
      ∃ c, id.toList.head? = some c ∧ 'a' ≤ c ∧ c ≤ 'z' := by
    simp [Option.any_eq_true, isLower_iff]
  simp only [isWellFormed, Bool.and_eq_true, decide_eq_true_eq, bne_iff_ne, hfirst]
  constructor
  · rintro ⟨⟨⟨hsize, hall⟩, hletter⟩, hlast⟩
    have hlength := Text.utf8Size_eq_length fun c hc => toNat_le_of_isIdChar (hchars.mp hall c hc)
    rw [hlength, String.length_toList] at hsize
    exact ⟨hsize, fun c hc => isIdChar_iff.mp (hchars.mp hall c hc), hletter, hlast⟩
  · rintro ⟨hlength, hall, hletter, hlast⟩
    have hids : ∀ c ∈ id.toList, isIdChar c = true := fun c hc => isIdChar_iff.mpr (hall c hc)
    rw [Text.utf8Size_eq_length fun c hc => toNat_le_of_isIdChar (hids c hc),
      String.length_toList]
    exact ⟨⟨⟨hlength, hchars.mpr hids⟩, hletter⟩, hlast⟩

/-! ### Lines -/

namespace Line

def head? : Line → Option (List Char)
  | .section head => some head
  | _ => none

end Line

def projectKey : List Char := ['p', 'r', 'o', 'j', 'e', 'c', 't']

/-- The head of the section in which a line stands. -/
def sectionOf (before : List Line) : Option (List Char) := before.reverse.findSome? Line.head?

/-- A line names the project, well formed, in a section that counts. -/
structure Names (coreOnly : Bool) (before : List Line) (line : Line) (id : String) : Prop where
  entry : line = .entry projectKey id.toList
  wellFormed : WellFormed id
  core : coreOnly = true → sectionOf before = some coreHead

/-- The first line behind some others that names the project. -/
def FirstNamed (coreOnly : Bool) (before lines : List Line) (id : String) : Prop :=
  ∃ between line after, lines = between ++ line :: after ∧
    Names coreOnly (before ++ between) line id ∧
    ∀ b l a id', between = b ++ l :: a → ¬Names coreOnly (before ++ b) l id'

def counts (coreOnly : Bool) (before : List Line) : Bool :=
  !coreOnly || sectionOf before == some coreHead

variable {coreOnly : Bool} {before lines : List Line} {line : Line} {id id' : String}

theorem sectionOf_snoc (before : List Line) (line : Line) :
    sectionOf (before ++ [line]) = line.head?.or (sectionOf before) := by
  simp only [sectionOf, List.reverse_append, List.reverse_singleton, List.singleton_append,
    List.findSome?_cons]
  cases line.head? <;> rfl

theorem counts_iff : counts coreOnly before = true ↔
    (coreOnly = true → sectionOf before = some coreHead) := by
  cases coreOnly <;> simp [counts]

theorem Names.unique (h : Names coreOnly before line id) (h' : Names coreOnly before line id') :
    id = id' := by
  have hentry := h.entry.symm.trans h'.entry
  exact String.toList_inj.mp (Line.entry.inj hentry).2

/-- A line that names the project is where the search ends; any other only tells the section. -/
theorem find_cons_of_names (h : Names coreOnly before line id) (lines : List Line) :
    find coreOnly (counts coreOnly before) (line :: lines) = some id := by
  have hcounts := counts_iff.mpr h.core
  have hformed := isWellFormed_iff.mpr h.wellFormed
  have hkey : String.ofList projectKey = "project" := rfl
  rw [h.entry, find, String.ofList_toList, hcounts, hformed, hkey]
  simp

theorem find_cons_of_not_names (h : ∀ id, ¬Names coreOnly before line id) (lines : List Line) :
    find coreOnly (counts coreOnly before) (line :: lines) =
      find coreOnly (counts coreOnly (before ++ [line])) lines := by
  cases line with
  | nothing => rw [find, counts, counts, sectionOf_snoc]; rfl
  | «section» head =>
    rw [find, counts, sectionOf_snoc]
    simp [Line.head?]
  | entry key value =>
    have hsection : sectionOf (before ++ [Line.entry key value]) = sectionOf before := by
      rw [sectionOf_snoc]
      rfl
    rw [find, if_neg, counts, counts, hsection]
    simp only [Bool.and_eq_true, not_and, beq_iff_eq]
    intro ⟨hcounts, hkey⟩ hformed
    refine h (String.ofList value) ⟨?_, isWellFormed_iff.mp hformed, counts_iff.mp hcounts⟩
    rw [String.toList_ofList, ← String.toList_ofList (l := key), hkey]
    rfl

theorem firstNamed_cons_of_names (h : Names coreOnly before line id) :
    FirstNamed coreOnly before (line :: lines) id' ↔ id' = id := by
  have hhere : Names coreOnly (before ++ []) line id := by rwa [List.append_nil]
  constructor
  · rintro ⟨between, l, after, hsplit, hnames, hfirst⟩
    cases between with
    | nil =>
      obtain ⟨rfl, rfl⟩ := List.cons.inj hsplit
      exact hnames.unique hhere
    | cons b between =>
      obtain ⟨rfl, _⟩ := List.cons.inj hsplit
      exact absurd hhere (hfirst [] line between id rfl)
  · rintro rfl
    exact ⟨[], line, lines, rfl, hhere, fun b l a _ hsplit => by simp at hsplit⟩

theorem firstNamed_cons_of_not_names (h : ∀ id, ¬Names coreOnly before line id) :
    FirstNamed coreOnly before (line :: lines) id' ↔
      FirstNamed coreOnly (before ++ [line]) lines id' := by
  constructor
  · rintro ⟨between, l, after, hsplit, hnames, hfirst⟩
    cases between with
    | nil =>
      obtain ⟨rfl, rfl⟩ := List.cons.inj hsplit
      rw [List.append_nil] at hnames
      exact absurd hnames (h id')
    | cons b between =>
      obtain ⟨rfl, rfl⟩ := List.cons.inj hsplit
      rw [List.append_cons] at hnames
      refine ⟨between, l, after, rfl, hnames, fun b' l' a' id'' hbetween => ?_⟩
      have hnot := hfirst (line :: b') l' a' id'' (by rw [hbetween, List.cons_append])
      rwa [List.append_cons] at hnot
  · rintro ⟨between, l, after, rfl, hnames, hfirst⟩
    rw [← List.append_cons] at hnames
    refine ⟨line :: between, l, after, rfl, hnames, fun b' l' a' id'' hbetween => ?_⟩
    cases b' with
    | nil =>
      obtain ⟨rfl, _⟩ := List.cons.inj hbetween
      rw [List.append_nil]
      exact h id''
    | cons b b' =>
      obtain ⟨rfl, hrest⟩ := List.cons.inj hbetween
      have hnot := hfirst b' l' a' id'' hrest
      rwa [← List.append_cons] at hnot

theorem find_eq_some_iff (before lines : List Line) :
    find coreOnly (counts coreOnly before) lines = some id ↔
      FirstNamed coreOnly before lines id := by
  induction lines generalizing before with
  | nil => simp [find, FirstNamed]
  | cons line lines ih =>
    by_cases hnames : ∃ id, Names coreOnly before line id
    · obtain ⟨id', hid'⟩ := hnames
      rw [find_cons_of_names hid', firstNamed_cons_of_names hid', Option.some.injEq, eq_comm]
    · have hnone := not_exists.mp hnames
      rw [find_cons_of_not_names hnone, firstNamed_cons_of_not_names hnone, ih]

theorem ofText_eq_some_iff {content : String} : ofText coreOnly content = some id ↔
    FirstNamed coreOnly [] ((Text.lines content.toList).map Line.ofChars) id := by
  rw [← find_eq_some_iff]
  cases coreOnly <;> rfl

end CloudInventory.Project
