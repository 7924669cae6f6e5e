import CloudInventory.Proofs.Project.Lines
import CloudInventory.Proofs.Text.Lines

/-! What a file of settings says, line by line of its text. The project is the value of the first
line that sets one, in the section of the nearest head above it. -/

namespace CloudInventory.Project

variable {coreOnly : Bool} {line head key value : List Char} {lines before : List (List Char)}
  {id : String}

def IsComment (line : List Char) : Prop :=
  (Text.trim line).head? = some '#' ∨ (Text.trim line).head? = some ';'

def IsHead (line : List Char) : Prop := (Text.trim line).head? = some '['

/-- The text before the first equals sign of a line is one key, and that after it one value. A blank
line has none. -/
structure Assigns (line key value : List Char) : Prop where
  notComment : ¬IsComment line
  notHead : ¬IsHead line
  parts : ∃ front back, Text.trim line = front ++ '=' :: back ∧ '=' ∉ front ∧
    Text.trim front = key ∧ Text.trim back = value

/-- The nearest head above is the given one. -/
def Below (head : List Char) (before : List (List Char)) : Prop :=
  ∃ above line between, before = above ++ line :: between ∧ IsHead line ∧ Text.trim line = head ∧
    ∀ other ∈ between, ¬IsHead other

/-- A line sets the project to a well-formed one, in a section that counts. -/
structure Sets (coreOnly : Bool) (before : List (List Char)) (line : List Char) (id : String) :
    Prop where
  assigns : Assigns line projectKey id.toList
  wellFormed : WellFormed id
  core : coreOnly = true → Below coreHead before

/-! ### Lines by their first character -/

theorem ofChars_of_comment (h : IsComment line) : Line.ofChars line = .nothing := by
  rcases h with h | h
  all_goals
    obtain ⟨rest, hrest⟩ := List.head?_eq_some_iff.mp h
    simp only [Line.ofChars, hrest]

theorem ofChars_of_head (h : IsHead line) : Line.ofChars line = .section (Text.trim line) := by
  obtain ⟨rest, hrest⟩ := List.head?_eq_some_iff.mp h
  simp only [Line.ofChars, hrest]

theorem ofChars_of_plain (hcomment : ¬IsComment line) (hhead : ¬IsHead line) :
    Line.ofChars line = match Text.splitOnce '=' (Text.trim line) with
      | none => .nothing
      | some (key, value) => .entry (Text.trim key) (Text.trim value) := by
  unfold IsComment at hcomment
  unfold IsHead at hhead
  rw [Line.ofChars]
  generalize Text.trim line = text at hcomment hhead ⊢
  split
  · rfl
  · simp at hcomment
  · simp at hcomment
  · simp at hhead
  · rfl

theorem ofChars_eq_entry_iff : Line.ofChars line = .entry key value ↔ Assigns line key value := by
  constructor
  · intro h
    have hcomment : ¬IsComment line := fun hcomment => by
      rw [ofChars_of_comment hcomment] at h
      cases h
    have hhead : ¬IsHead line := fun hhead => by
      rw [ofChars_of_head hhead] at h
      cases h
    rw [ofChars_of_plain hcomment hhead] at h
    cases hsplit : Text.splitOnce '=' (Text.trim line) with
    | none => simp [hsplit] at h
    | some parts =>
      rw [hsplit] at h
      obtain ⟨hkey, hvalue⟩ := Line.entry.inj h
      obtain ⟨hline, hfront⟩ := Text.splitOnce_eq_some_iff.mp hsplit
      exact ⟨hcomment, hhead, _, _, hline, hfront, hkey, hvalue⟩
  · rintro ⟨hcomment, hhead, front, back, hline, hfront, rfl, rfl⟩
    rw [ofChars_of_plain hcomment hhead, Text.splitOnce_eq_some_iff.mpr ⟨hline, hfront⟩]

theorem head?_ofChars_eq_some_iff :
    (Line.ofChars line).head? = some head ↔ IsHead line ∧ Text.trim line = head := by
  by_cases hhead : IsHead line
  · simp [ofChars_of_head hhead, hhead, Line.head?]
  · have hnone : (Line.ofChars line).head? = none := by
      by_cases hcomment : IsComment line
      · rw [ofChars_of_comment hcomment]
        rfl
      · rw [ofChars_of_plain hcomment hhead]
        cases Text.splitOnce '=' (Text.trim line) <;> rfl
    simp [hnone, hhead]

/-! ### The section of a line -/

theorem sectionOf_eq_some_iff :
    sectionOf (before.map Line.ofChars) = some head ↔ Below head before := by
  rw [sectionOf, ← List.map_reverse, List.findSome?_map, List.findSome?_eq_some_iff]
  constructor
  · rintro ⟨between, line, above, hbefore, hline, hbetween⟩
    obtain ⟨hhead, htrim⟩ := head?_ofChars_eq_some_iff.mp hline
    refine ⟨above.reverse, line, between.reverse, ?_, hhead, htrim, fun other hother hhead => ?_⟩
    · rw [← List.reverse_reverse before, hbefore]
      simp
    · have hnone := hbetween other (List.mem_reverse.mp hother)
      cases hnone.symm.trans (head?_ofChars_eq_some_iff.mpr ⟨hhead, rfl⟩)
  · rintro ⟨above, line, between, rfl, hhead, htrim, hbetween⟩
    refine ⟨between.reverse, line, above.reverse, by simp, ?_, fun other hother => ?_⟩
    · exact head?_ofChars_eq_some_iff.mpr ⟨hhead, htrim⟩
    · refine Option.eq_none_iff_forall_ne_some.mpr fun head' hhead' => ?_
      have hother' := (head?_ofChars_eq_some_iff.mp hhead').1
      exact hbetween other (List.mem_reverse.mp hother) hother'

theorem names_iff :
    Names coreOnly (before.map Line.ofChars) (Line.ofChars line) id ↔
      Sets coreOnly before line id := by
  constructor
  · rintro ⟨hentry, hformed, hcore⟩
    exact ⟨ofChars_eq_entry_iff.mp hentry, hformed, fun h => sectionOf_eq_some_iff.mp (hcore h)⟩
  · rintro ⟨hassigns, hformed, hcore⟩
    exact ⟨ofChars_eq_entry_iff.mpr hassigns, hformed,
      fun h => sectionOf_eq_some_iff.mpr (hcore h)⟩

/-- The first of some lines that sets the project. -/
def FirstSets (coreOnly : Bool) (lines : List (List Char)) (id : String) : Prop :=
  ∃ before line after, lines = before ++ line :: after ∧ Sets coreOnly before line id ∧
    ∀ above other between, before = above ++ other :: between →
      ∀ id', ¬Sets coreOnly above other id'

theorem firstNamed_iff :
    FirstNamed coreOnly [] (lines.map Line.ofChars) id ↔ FirstSets coreOnly lines id := by
  simp only [FirstNamed, FirstSets, List.nil_append]
  constructor
  · rintro ⟨between, named, after, hlines, hnames, hfirst⟩
    obtain ⟨before, rest, rfl, rfl, hrest⟩ := List.map_eq_append_iff.mp hlines
    obtain ⟨line, rest, rfl, rfl, rfl⟩ := List.map_eq_cons_iff.mp hrest
    refine ⟨before, line, rest, rfl, names_iff.mp hnames, ?_⟩
    rintro above other between rfl id' hsets
    exact hfirst _ _ _ id' List.map_append (names_iff.mpr hsets)
  · rintro ⟨before, line, after, rfl, hsets, hfirst⟩
    refine ⟨before.map Line.ofChars, Line.ofChars line, after.map Line.ofChars, ?_,
      names_iff.mpr hsets, ?_⟩
    · simp
    · intro b l a id' hbetween hnames
      obtain ⟨above, rest, rfl, rfl, hrest⟩ := List.map_eq_append_iff.mp hbetween
      obtain ⟨other, rest, rfl, rfl, rfl⟩ := List.map_eq_cons_iff.mp hrest
      exact hfirst above other rest rfl id' (names_iff.mp hnames)

theorem exists_firstSets {line : List Char} {after : List (List Char)}
    (hlines : lines = before ++ line :: after) (hsets : Sets coreOnly before line id) :
    ∃ id', FirstSets coreOnly lines id' := by
  induction hlength : before.length using Nat.strongRecOn
    generalizing before line after id with
  | ind n ih =>
    by_cases hfirst : ∀ above other between, before = above ++ other :: between →
        ∀ id', ¬Sets coreOnly above other id'
    · exact ⟨id, before, line, after, hlines, hsets, hfirst⟩
    · simp only [Classical.not_forall, Classical.not_not] at hfirst
      obtain ⟨above, other, between, rfl, id', hsets'⟩ := hfirst
      rw [List.append_assoc, List.cons_append] at hlines
      exact ih above.length (by rw [← hlength]; simp) hlines hsets' rfl

theorem ofText_eq_some_iff_firstSets {content : String} : ofText coreOnly content = some id ↔
    FirstSets coreOnly (Text.lines content.toList) id :=
  ofText_eq_some_iff.trans firstNamed_iff

/-- The project of a text is the value of the first line that sets one, in a core section where no
other counts, and there is none exactly where no line does. What is found in a core section is found
where every section counts, if not before it another. -/
theorem first_setting_found (content : String) :
    let lines := Text.lines content.toList
    (∀ ls, Text.Lines content.toList ls ↔ ls = lines) ∧
      (∀ coreOnly id, ofText coreOnly content = some id ↔ FirstSets coreOnly lines id) ∧
      (∀ coreOnly, ofText coreOnly content = none ↔
        ∀ before line after, lines = before ++ line :: after →
          ∀ id, ¬Sets coreOnly before line id) ∧
      ∀ id, ofText true content = some id → ∃ id', ofText false content = some id' := by
  intro lines
  refine ⟨fun ls => Text.lines_iff, fun coreOnly id => ofText_eq_some_iff_firstSets,
    fun coreOnly => ⟨fun hnone => ?_, fun hnone => ?_⟩, fun id hid => ?_⟩
  · intro before line after hlines id hsets
    obtain ⟨id', hfirst⟩ := exists_firstSets hlines hsets
    cases hnone.symm.trans (ofText_eq_some_iff_firstSets.mpr hfirst)
  · refine Option.eq_none_iff_forall_ne_some.mpr fun id hid => ?_
    obtain ⟨before, line, after, hlines, hsets, _⟩ := ofText_eq_some_iff_firstSets.mp hid
    exact hnone before line after hlines id hsets
  · obtain ⟨before, line, after, hlines, hsets, _⟩ := ofText_eq_some_iff_firstSets.mp hid
    have hany : Sets false before line id := ⟨hsets.assigns, hsets.wellFormed, nofun⟩
    obtain ⟨id', hfirst⟩ := exists_firstSets hlines hany
    exact ⟨id', ofText_eq_some_iff_firstSets.mpr hfirst⟩

/-- A malformed project above the first head, one in another section, a head that is not quite that
of the core section, and in that section a comment and a value with a sign too many. -/
def mixedLines : List String :=
  ["; old\r\n", "project = Old_One\r\n", "[compute]\n", "project=other-project\r\n\r\n",
    "[ core ]\n", "project = not-this-one\n", "[core]\n", "#project = commented-out\n",
    "project = my-project = 1\n", " project = my-project-123 "]

def mixedSettings : String := String.ofList (mixedLines.flatMap String.toList)

theorem mixedSettings_found :
    FirstSets true (Text.lines mixedSettings.toList) "my-project-123" ∧
      FirstSets false (Text.lines mixedSettings.toList) "other-project" ∧
      (∃ id, ofText false mixedSettings = some id) ∧
      ∀ before line after, Text.lines "[core]\nproject_number = 123456".toList =
        before ++ line :: after → ∀ id, ¬Sets false before line id := by
  have hcore : ofText true mixedSettings = some "my-project-123" := by
    rw [ofText, mixedSettings, String.toList_ofList]
    decide +kernel
  have hany : ofText false mixedSettings = some "other-project" := by
    rw [ofText, mixedSettings, String.toList_ofList]
    decide +kernel
  have hnone : ofText false "[core]\nproject_number = 123456" = none := by decide +kernel
  obtain ⟨_, hfirst, _, hfound⟩ := first_setting_found mixedSettings
  obtain ⟨_, _, hmissing, _⟩ := first_setting_found "[core]\nproject_number = 123456"
  exact ⟨(hfirst _ _).mp hcore, (hfirst _ _).mp hany, hfound _ hcore, (hmissing _).mp hnone⟩

end CloudInventory.Project
