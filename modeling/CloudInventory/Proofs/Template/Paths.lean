import CloudInventory.Proofs.Template.Substitution
import CloudInventory.ResourceType
import CloudInventory.Text.Blank
import Mathlib.Data.List.Forall2

/-! The paths of the registered definitions. Each segment of such a path is that of its template, or
the encoding of one value, so that no value reaches beyond its segment and the values can be read
back from the path. -/

namespace CloudInventory

namespace Text

variable {separator : Char} {cs part : List Char}

theorem splitAt_eq_splitOn (separator : Char) (cs : List Char) :
    splitAt separator cs = cs.splitOn separator := by
  induction cs with
  | nil => rfl
  | cons c cs ih =>
    have hcons : (c :: cs).splitOn separator =
        if (c == separator) = true then [] :: cs.splitOn separator
        else (cs.splitOn separator).modifyHead (List.cons c) :=
      List.splitOnP_cons_eq_if_modifyHead c cs
    rw [splitAt, ih, hcons]
    by_cases hc : c = separator
    · simp [hc]
    · simp only [hc, beq_iff_eq, if_false]
      cases hsplit : cs.splitOn separator with
      | nil => exact absurd hsplit (List.splitOnP_ne_nil _ cs)
      | cons part parts => rfl

theorem not_mem_of_mem_splitAt (h : part ∈ splitAt separator cs) : separator ∉ part := by
  induction cs generalizing part with
  | nil =>
    obtain rfl := List.mem_singleton.mp h
    exact List.not_mem_nil
  | cons c cs ih =>
    by_cases hc : c = separator
    · rw [splitAt, if_pos hc] at h
      rcases List.mem_cons.mp h with rfl | h
      · exact List.not_mem_nil
      · exact ih h
    · rw [splitAt, if_neg hc] at h
      cases hsplit : splitAt separator cs with
      | nil =>
        simp only [hsplit, List.mem_singleton] at h
        rw [h, List.mem_singleton]
        exact Ne.symm hc
      | cons first others =>
        simp only [hsplit] at h ih
        rcases List.mem_cons.mp h with rfl | h
        · rw [List.mem_cons, not_or]
          exact ⟨Ne.symm hc, ih List.mem_cons_self⟩
        · exact ih (List.mem_cons_of_mem _ h)

theorem intercalate_splitAt (separator : Char) (cs : List Char) :
    [separator].intercalate (splitAt separator cs) = cs := by
  rw [splitAt_eq_splitOn, List.intercalate_splitOn]

theorem splitAt_intercalate {parts : List (List Char)} (h : ∀ p ∈ parts, separator ∉ p)
    (hne : parts ≠ []) : splitAt separator ([separator].intercalate parts) = parts := by
  rw [splitAt_eq_splitOn, List.splitOn_intercalate separator h hne]

end Text

namespace Template

open Text (percentEncode percentDecoded? splitAt)

/-- A segment of a template that is text or nothing but a placeholder. -/
def Part.ofSegment? (cs : List Char) : Option Part :=
  if h : BraceFree cs then some (.text cs h)
  else
    let name := String.ofList cs.tail.dropLast
    if h : BraceFree name.toList then some (.hole name h) else none

def segmentsOf (template : String) : List Part :=
  (splitAt '/' template.toList).filterMap Part.ofSegment?

/-- Characters that would end a path, or open a placeholder. -/
def isSpecial (c : Char) : Bool := isBrace c || c == '?' || c == '#'

/-- A template whose segments are text or placeholders. -/
def Regular (template : String) : Prop :=
  (segmentsOf template).map Part.written = splitAt '/' template.toList ∧
    ∀ c ∈ template.toList, c ≠ '?' ∧ c ≠ '#'

instance (template : String) : Decidable (Regular template) :=
  @instDecidableAnd _ _ inferInstance
    (List.decidableBAll (fun c => c ≠ '?' ∧ c ≠ '#') template.toList)

theorem braceFree_slash : BraceFree ['/'] := by decide

def slash : Part := .text ['/'] braceFree_slash

/-- What becomes of a segment: text stays, and a placeholder gives way to a value's encoding. -/
def Fills (vars : Variables) (segment filled : List Char) : Prop :=
  (BraceFree segment ∧ filled = segment) ∨
    ∃ name value, segment = placeholder name.toList ∧ Dict.find? name vars = some value ∧
      percentDecoded? filled = some value

/-- A path that goes by its template, segment by segment. -/
structure Faithful (template path : String) (vars : Variables) : Prop where
  segments : (splitAt '/' template.toList).Forall₂ (Fills vars) (splitAt '/' path.toList)
  count : (splitAt '/' path.toList).length = (splitAt '/' template.toList).length
  clean : ∀ c ∈ path.toList, isSpecial c = false

/-- The template has a segment for a variable of this name. -/
def Asks (template name : String) : Prop := placeholder name.toList ∈ splitAt '/' template.toList

theorem not_braceFree_placeholder (n : List Char) : ¬BraceFree (placeholder n) :=
  fun h => absurd (h _ List.mem_cons_self) (by decide)

theorem placeholder_inj {name other : String}
    (h : placeholder name.toList = placeholder other.toList) : name = other :=
  String.toList_inj.mp (List.append_cancel_right (List.cons.inj h).2)

theorem plain_of_mem_percentEncode {c : Char} {cs : List Char} (hc : c ∈ percentEncode cs) :
    isSpecial c = false ∧ c ≠ '/' := by
  have hfree := braceFree_percentEncode cs c hc
  have hne : ∀ d : Char, Text.isKept d = false → d ≠ '%' → c ≠ d := by
    rintro d hkept hpercent rfl
    rcases Text.mem_percentEncode hc with h | h
    · exact absurd h (by simp [hkept])
    · exact hpercent h
  have hquery : c ≠ '?' := hne '?' (by decide) (by decide)
  have hhash : c ≠ '#' := hne '#' (by decide) (by decide)
  exact ⟨by simp [isSpecial, hfree, hquery, hhash], hne '/' (by decide) (by decide)⟩

section Segments

variable {template : String} {vars vars' : Variables} {segs : List Part}

/-- A template out of its segments. -/
def slashed (segs : List Part) : List Part := segs.intersperse slash

theorem flatMap_intersperse {f : Part → List Char} (hf : f slash = ['/']) (segs : List Part) :
    (slashed segs).flatMap f = ['/'].intercalate (segs.map f) := by
  have hmap : (slashed segs).map f = (segs.map f).intersperse ['/'] := by
    rw [slashed, ← hf]
    induction segs with
    | nil => rfl
    | cons p segs ih => cases segs <;> simp_all
  rw [List.flatMap_def, hmap]
  rfl

theorem holes_slashed (segs : List Part) : holes (slashed segs) = holes segs := by
  induction segs with
  | nil => rfl
  | cons p segs ih =>
    cases segs with
    | nil => rfl
    | cons q segs => cases p <;> simp_all [slashed, slash]

theorem mem_slashed {p : Part} (h : p ∈ segs) : p ∈ slashed segs := by
  induction segs with
  | nil => cases h
  | cons q segs ih =>
    cases segs with
    | nil => exact h
    | cons r segs =>
      have hcons : slashed (q :: r :: segs) = q :: slash :: slashed (r :: segs) := rfl
      rw [hcons]
      rcases List.mem_cons.mp h with rfl | h
      · exact List.mem_cons_self
      · exact List.mem_cons_of_mem _ (List.mem_cons_of_mem _ (ih h))

theorem of_mem_slashed {p : Part} (h : p ∈ slashed segs) : p = slash ∨ p ∈ segs := by
  induction segs with
  | nil => cases h
  | cons q segs ih =>
    cases segs with
    | nil => exact .inr h
    | cons r segs =>
      have hcons : slashed (q :: r :: segs) = q :: slash :: slashed (r :: segs) := rfl
      rw [hcons] at h
      rcases List.mem_cons.mp h with rfl | h
      · exact .inr List.mem_cons_self
      · rcases List.mem_cons.mp h with rfl | h
        · exact .inl rfl
        · exact (ih h).imp_right (List.mem_cons_of_mem _)

theorem Regular.toList_eq (h : Regular template) :
    template.toList = written (slashed (segmentsOf template)) := by
  rw [written, flatMap_intersperse rfl, h.1, Text.intercalate_splitAt]

theorem Regular.not_slash {p : Part} (h : Regular template) (hp : p ∈ segmentsOf template) :
    '/' ∉ p.written := by
  have hwritten : p.written ∈ splitAt '/' template.toList := h.1 ▸ List.mem_map_of_mem hp
  exact Text.not_mem_of_mem_splitAt hwritten

theorem Regular.ne_nil (h : Regular template) : segmentsOf template ≠ [] := by
  intro hnil
  have hsplit := h.1
  rw [hnil, Text.splitAt_eq_splitOn] at hsplit
  exact List.splitOnP_ne_nil _ _ hsplit.symm

/-- A name has its segment in a regular template where it has a hole. -/
theorem Regular.asks_iff (h : Regular template) {name : String} :
    Asks template name ↔ name ∈ holes (segmentsOf template) := by
  rw [Asks, ← h.1, List.mem_map, holes, List.mem_filterMap]
  constructor
  · rintro ⟨p, hp, hwritten⟩
    cases p with
    | text cs plain =>
      obtain rfl : cs = placeholder name.toList := hwritten
      exact absurd plain (not_braceFree_placeholder _)
    | hole other plain => exact ⟨_, hp, congrArg some (placeholder_inj hwritten)⟩
  · rintro ⟨p, hp, hhole⟩
    cases p with
    | text cs plain => cases hhole
    | hole other plain =>
      obtain rfl : other = name := Option.some.inj hhole
      exact ⟨_, hp, rfl⟩

theorem fills_value {p : Part} (h : ∀ name ∈ p.hole?, (Dict.find? name vars).isSome) :
    Fills vars p.written (p.value vars) := by
  cases p with
  | text cs plain => exact .inl ⟨plain, rfl⟩
  | hole name plain =>
    obtain ⟨value, hvalue⟩ := Option.isSome_iff_exists.mp (h name rfl)
    refine .inr ⟨name, value, rfl, hvalue, ?_⟩
    simp only [Part.value, hvalue]
    exact Text.percentDecoded?_percentEncode value

/-- The characters of a filled segment are those of its template, or belong to an encoding. -/
theorem plain_of_mem_value {p : Part} (h : Regular template) (hp : p ∈ segmentsOf template)
    (hbound : ∀ name ∈ p.hole?, (Dict.find? name vars).isSome) {c : Char}
    (hc : c ∈ p.value vars) : isSpecial c = false ∧ c ≠ '/' := by
  cases p with
  | text cs plain =>
    have htemplate : c ∈ template.toList := by
      rw [h.toList_eq]
      exact List.mem_flatMap.mpr ⟨_, mem_slashed hp, hc⟩
    obtain ⟨hquery, hhash⟩ := h.2 c htemplate
    have hslash : c ≠ '/' := fun he => h.not_slash hp (he ▸ hc)
    exact ⟨by simp [isSpecial, plain c hc, hquery, hhash], hslash⟩
  | hole name plain =>
    obtain ⟨value, hvalue⟩ := Option.isSome_iff_exists.mp (hbound name rfl)
    simp only [Part.value, hvalue] at hc
    exact plain_of_mem_percentEncode hc

theorem Regular.expandPath_eq (h : Regular template)
    (hharmless : Harmless vars (slashed (segmentsOf template))) :
    expandPath template vars = String.ofList (substitute vars (slashed (segmentsOf template))) := by
  rw [expandPath, h.toList_eq, expandWith_written hharmless]

/-- Variables with the same values for a template make the same path. -/
theorem Regular.expandPath_congr (h : Regular template)
    (hharmless : Harmless vars (slashed (segmentsOf template)))
    (hharmless' : Harmless vars' (slashed (segmentsOf template)))
    (hsame : ∀ name, Asks template name → Dict.find? name vars = Dict.find? name vars') :
    expandPath template vars = expandPath template vars' := by
  rw [h.expandPath_eq hharmless, h.expandPath_eq hharmless', substitute_congr fun name hname => ?_]
  rw [holes_slashed] at hname
  exact hsame name (h.asks_iff.mpr hname)

/-- Where all variables that a template asks for are there, its path goes by it. -/
theorem faithful_expandPath (h : Regular template)
    (hharmless : Harmless vars (slashed (segmentsOf template)))
    (hbound : ∀ name, Asks template name → (Dict.find? name vars).isSome) :
    Faithful template (expandPath template vars) vars := by
  have hpath : (expandPath template vars).toList =
      ['/'].intercalate ((segmentsOf template).map (Part.value vars)) := by
    rw [h.expandPath_eq hharmless, substitute, flatMap_intersperse rfl, String.toList_ofList]
  have hholes : ∀ p ∈ segmentsOf template, ∀ name ∈ p.hole?, (Dict.find? name vars).isSome :=
    fun p hp name hname => hbound name (h.asks_iff.mpr (List.mem_filterMap.mpr ⟨p, hp, hname⟩))
  have hsplit : splitAt '/' (expandPath template vars).toList =
      (segmentsOf template).map (Part.value vars) := by
    rw [hpath]
    refine Text.splitAt_intercalate (fun part hpart hslash => ?_) (by simpa using h.ne_nil)
    obtain ⟨p, hp, rfl⟩ := List.mem_map.mp hpart
    exact (plain_of_mem_value h hp (hholes p hp) hslash).2 rfl
  refine ⟨?_, ?_, ?_⟩
  · rw [hsplit, ← h.1, List.forall₂_map_left_iff, List.forall₂_map_right_iff, List.forall₂_same]
    exact fun p hp => fills_value (hholes p hp)
  · rw [hsplit, ← h.1, List.length_map, List.length_map]
  · intro c hc
    rw [hpath, ← flatMap_intersperse rfl] at hc
    obtain ⟨p, hp, hcp⟩ := List.mem_flatMap.mp hc
    rcases of_mem_slashed hp with rfl | hp
    · obtain rfl := List.mem_singleton.mp hcp
      rfl
    · exact (plain_of_mem_value h hp (hholes p hp) hcp).1

/-- What a segment of a path decodes to. -/
def Part.decoded? (vars : Variables) : Part → Option String
  | .text cs _ => percentDecoded? cs
  | .hole name _ => Dict.find? name vars

theorem Faithful.decoded {path : String} (hreg : Regular template)
    (h : Faithful template path vars) :
    (splitAt '/' path.toList).map percentDecoded? =
      (segmentsOf template).map (Part.decoded? vars) := by
  have hsegments := h.segments
  rw [← hreg.1, List.forall₂_map_left_iff] at hsegments
  have hdecoded : ∀ filled p, Fills vars (Part.written p) filled →
      percentDecoded? filled = p.decoded? vars := by
    rintro filled p (⟨hfree, rfl⟩ | ⟨name, value, hname, hfind, hvalue⟩)
    · cases p with
      | text => rfl
      | hole => exact absurd hfree (not_braceFree_placeholder _)
    · cases p with
      | text cs plain =>
        obtain rfl : cs = placeholder name.toList := hname
        exact absurd plain (not_braceFree_placeholder _)
      | hole other plain =>
        obtain rfl := placeholder_inj hname
        exact hvalue.trans hfind.symm
  have hsame : List.Forall₂ (· = ·) ((splitAt '/' path.toList).map percentDecoded?)
      ((segmentsOf template).map (Part.decoded? vars)) :=
    List.forall₂_map_left_iff.mpr (List.forall₂_map_right_iff.mpr
      (hsegments.flip.imp hdecoded))
  rwa [List.forall₂_eq_eq_eq] at hsame

/-- Two paths of a template that are the same path are made of the same values. -/
theorem Faithful.agree {path name : String} (h : Faithful template path vars)
    (h' : Faithful template path vars') (hasks : Asks template name) :
    Dict.find? name vars = Dict.find? name vars' := by
  have hvalue : ∀ {vars : Variables} {filled : List Char},
      Fills vars (placeholder name.toList) filled →
      Dict.find? name vars = percentDecoded? filled := by
    rintro vars filled (⟨hfree, _⟩ | ⟨other, value, hother, hfind, hdecoded⟩)
    · exact absurd hfree (not_braceFree_placeholder _)
    · rw [placeholder_inj hother, hfind, hdecoded]
  obtain ⟨i, hi, hseg⟩ := List.mem_iff_getElem.mp hasks
  have hi' : i < (splitAt '/' path.toList).length := h.count ▸ hi
  have hfirst := h.segments.get hi hi'
  have hsecond := h'.segments.get hi hi'
  simp only [List.get_eq_getElem, hseg] at hfirst hsecond
  rw [hvalue hfirst, hvalue hsecond]

end Segments

section Variables

variable {ps : List Part} {vars : Variables}

theorem inert_of_forall {n : List Char} (h : ∀ name ∈ holes ps, stem n ≠ name.toList) :
    Inert n ps := by
  induction ps with
  | nil => trivial
  | cons p ps ih =>
    cases p with
    | text cs plain => exact ih h
    | hole name plain =>
      obtain ⟨hname, hps⟩ := List.forall_mem_cons.mp h
      exact ⟨fun hstem => absurd hstem hname, ih hps⟩

theorem inert_of_length_le_one (h : (holes ps).length ≤ 1) (n : List Char) : Inert n ps := by
  induction ps with
  | nil => trivial
  | cons p ps ih =>
    cases p with
    | text cs plain => exact ih h
    | hole name plain =>
      have hnone : holes ps = [] := by simpa using h
      exact ⟨fun _ => hnone, ih (by rw [hnone]; exact Nat.zero_le 1)⟩

/-- In a template of one hole at most, no name's placeholder is anywhere else. -/
theorem harmless_of_length_le_one (h : (holes ps).length ≤ 1) : Harmless vars ps := by
  induction vars generalizing ps with
  | nil => trivial
  | cons v vars ih =>
    refine ⟨.inr (inert_of_length_le_one h _), ih ?_⟩
    rw [holes_map_fill]
    exact (List.length_filter_le _ _).trans h

/-- A name with a brace does no harm behind the variable that its part before the brace names, as
that variable's placeholder is gone by then. -/
theorem harmless_of_stems
    (hstems : vars.Pairwise fun a b => BraceFree a.1.toList ∨ stem a.1.toList ≠ b.1.toList)
    (hbound : ∀ name ∈ holes ps, name ∈ vars.map (·.1)) : Harmless vars ps := by
  induction vars generalizing ps with
  | nil => trivial
  | cons v vars ih =>
    obtain ⟨hfirst, hrest⟩ := List.pairwise_cons.mp hstems
    refine ⟨?_, ih hrest fun name hname => ?_⟩
    · rcases Decidable.em (BraceFree v.1.toList) with hfree | hbrace
      · exact .inl hfree
      · refine .inr (inert_of_forall fun name hname hstem => ?_)
        rcases List.mem_cons.mp (hbound name hname) with rfl | hlater
        · exact hbrace (hstem ▸ fun c hc => by simpa using List.mem_takeWhile_imp hc)
        · obtain ⟨b, hb, rfl⟩ := List.mem_map.mp hlater
          exact (hfirst b hb).elim hbrace fun hne => hne hstem
    · rw [holes_map_fill] at hname
      obtain ⟨hname, hne⟩ := List.mem_filter.mp hname
      exact (List.mem_cons.mp (hbound name hname)).resolve_left (by simpa using hne)

/-- In the order of texts, a name comes behind the part of it before a brace. -/
theorem stem_ne_of_lt {a b : String} (h : a < b) : stem a.toList ≠ b.toList := by
  intro hstem
  have hprefix : stem a.toList <+: a.toList := List.takeWhile_prefix _
  exact hprefix.le (hstem ▸ h)

theorem stems_readVariables {args : ReadArgs} (h : args.attributes.Ascending) (project : String) :
    (Definition.readVariables project args).Pairwise fun a b =>
      BraceFree a.1.toList ∨ stem a.1.toList ≠ b.1.toList := by
  have hproject : BraceFree "project".toList := by decide
  have hid : BraceFree "id".toList := by decide
  refine List.pairwise_cons.mpr ⟨fun _ _ => .inl hproject, ?_⟩
  refine List.pairwise_cons.mpr ⟨fun _ _ => .inl hid, ?_⟩
  exact h.imp fun hlt => .inr (stem_ne_of_lt hlt)

end Variables

section Registered

variable {t : ResourceType} {project name : String} {args : ReadArgs} {vars : Variables}

theorem registered_regular (t : ResourceType) :
    Regular t.definition.readPath ∧ Regular t.definition.listPath := by
  cases t <;> decide +kernel

/-- Beside the project, the listing of a type names one parent at most. -/
theorem listPath_holes (t : ResourceType) :
    ((holes (segmentsOf t.definition.listPath)).filter (· ≠ "project")).length ≤ 1 := by
  cases t <;> decide +kernel

/-- Read arguments with all attributes that a type's path names, in the order of their keys. -/
structure Serves (t : ResourceType) (args : ReadArgs) : Prop where
  ascending : args.attributes.Ascending
  named : ∀ name, Asks t.definition.readPath name →
    name = "project" ∨ name = "id" ∨ name ∈ args.attributes.keys

theorem Serves.bound (h : Serves t args) (project : String)
    (hasks : Asks t.definition.readPath name) :
    name ∈ (Definition.readVariables project args).map (·.1) := by
  rcases h.named name hasks with rfl | rfl | hkey
  · exact List.mem_cons_self
  · exact List.mem_cons_of_mem _ List.mem_cons_self
  · exact List.mem_cons_of_mem _ (List.mem_cons_of_mem _ hkey)

theorem Serves.harmless (h : Serves t args) (project : String) :
    Harmless (Definition.readVariables project args)
      (slashed (segmentsOf t.definition.readPath)) := by
  refine harmless_of_stems (stems_readVariables h.ascending project) fun name hname => ?_
  rw [holes_slashed] at hname
  exact h.bound project ((registered_regular t).1.asks_iff.mpr hname)

theorem Serves.faithful (h : Serves t args) (project : String) :
    Faithful t.definition.readPath (t.definition.readPathOf project args)
      (Definition.readVariables project args) :=
  faithful_expandPath (registered_regular t).1 (h.harmless project) fun _ hasks =>
    Dict.find?_isSome_iff.mpr (h.bound project hasks)

theorem Serves.readPathOf_congr {args' : ReadArgs} (h : Serves t args) (h' : Serves t args')
    {project : String} (hsame : ∀ name, Asks t.definition.readPath name →
      Dict.find? name (Definition.readVariables project args) =
        Dict.find? name (Definition.readVariables project args')) :
    t.definition.readPathOf project args = t.definition.readPathOf project args' :=
  (registered_regular t).1.expandPath_congr (h.harmless project) (h'.harmless project) hsame

theorem faithful_listRequest (hnamed : ∀ name, Asks t.definition.listPath name →
    name = "project" ∨ name ∈ vars.map (·.1)) (project : String) :
    Faithful t.definition.listPath (t.definition.listRequest project vars).path
      (("project", project) :: vars) := by
  have hproject : BraceFree "project".toList := by decide
  refine faithful_expandPath (registered_regular t).2 ⟨.inl hproject, ?_⟩ fun name hasks => ?_
  · refine harmless_of_length_le_one ?_
    rw [holes_map_fill, holes_slashed]
    exact listPath_holes t
  · exact Dict.find?_isSome_iff.mpr (List.mem_cons.mpr (hnamed name hasks))

/-- No value of a read or of a list call, whatever text it is, reaches beyond its segment of the
path, and the path tells all values that it is made of. An encoding keeps letters, digits and
`-_.~`, and escapes every octet of any other character. -/
theorem paths_faithful (t : ResourceType) :
    (∀ project args, Serves t args →
      Faithful t.definition.readPath (t.definition.readPathOf project args)
        (Definition.readVariables project args) ∧
      ∀ project' args', Serves t args' →
        t.definition.readPathOf project args = t.definition.readPathOf project' args' →
        ∀ name, Asks t.definition.readPath name →
          Dict.find? name (Definition.readVariables project args) =
            Dict.find? name (Definition.readVariables project' args')) ∧
    (∀ project vars, (∀ name, Asks t.definition.listPath name →
        name = "project" ∨ name ∈ vars.map (·.1)) →
      Faithful t.definition.listPath (t.definition.listRequest project vars).path
        (("project", project) :: vars) ∧
      ∀ project' vars', (∀ name, Asks t.definition.listPath name →
          name = "project" ∨ name ∈ vars'.map (·.1)) →
        (t.definition.listRequest project vars).path =
          (t.definition.listRequest project' vars').path →
        ∀ name, Asks t.definition.listPath name →
          Dict.find? name (("project", project) :: vars) =
            Dict.find? name (("project", project') :: vars')) ∧
    ∀ cs, percentEncode cs = cs.flatMap fun c =>
      if Text.isKept c then [c] else (String.utf8EncodeChar c).flatMap Text.escapedOctet := by
  refine ⟨fun project args hserves => ⟨hserves.faithful project, ?_⟩,
    fun project vars hnamed => ⟨faithful_listRequest hnamed project, ?_⟩, Text.percentEncode_eq⟩
  · intro project' args' hserves' hsame name hasks
    have hfaithful := hserves.faithful project
    rw [hsame] at hfaithful
    exact hfaithful.agree (hserves'.faithful project') hasks
  · intro project' vars' hnamed' hsame name hasks
    have hfaithful := faithful_listRequest hnamed project
    rw [hsame] at hfaithful
    exact hfaithful.agree (faithful_listRequest hnamed' project') hasks

theorem recordSet_asks_iff (name : String) :
    Asks ResourceType.dnsRecordSet.definition.readPath name ↔
      name = "project" ∨ name = "managedZone" ∨ name = "name" ∨ name = "type" := by
  have hholes : holes (segmentsOf ResourceType.dnsRecordSet.definition.readPath) =
      ["project", "managedZone", "name", "type"] := by decide +kernel
  rw [(registered_regular .dnsRecordSet).1.asks_iff, hholes]
  simp

/-- Values with separators, and an attribute whose placeholder spans two others. -/
def strayArgs : ReadArgs :=
  ⟨"google_dns_record_set", "id",
    [("managedZone", "a/b?"), ("managedZone\x7d/rrsets/\x7bname", "x"), ("name", "\x7btype\x7d#"),
      ("type", "%41")]⟩

theorem strayArgs_faithful :
    Serves .dnsRecordSet strayArgs ∧
    ResourceType.dnsRecordSet.definition.readPathOf "p" strayArgs =
      "projects/p/managedZones/a%2Fb%3F/rrsets/%7Btype%7D%23/%2541" ∧
    Faithful ResourceType.dnsRecordSet.definition.readPath
      "projects/p/managedZones/a%2Fb%3F/rrsets/%7Btype%7D%23/%2541"
      (Definition.readVariables "p" strayArgs) ∧
    Faithful ResourceType.dnsRecordSet.definition.listPath
      "projects/p/managedZones/a%2Fb/rrsets" [("project", "p"), ("managedZone", "a/b")] := by
  have hread : ∀ name, Asks ResourceType.dnsRecordSet.definition.readPath name →
      name = "project" ∨ name = "id" ∨ name ∈ strayArgs.attributes.keys := by
    intro name hasks
    rcases (recordSet_asks_iff name).mp hasks with rfl | rfl | rfl | rfl <;> decide
  have hlist : ∀ name, Asks ResourceType.dnsRecordSet.definition.listPath name →
      name = "project" ∨ name ∈ [("managedZone", "a/b")].map (·.1) := by
    intro name hasks
    have hholes : holes (segmentsOf ResourceType.dnsRecordSet.definition.listPath) =
        ["project", "managedZone"] := by decide +kernel
    rw [(registered_regular .dnsRecordSet).2.asks_iff, hholes] at hasks
    simp only [List.mem_cons, List.not_mem_nil, or_false] at hasks
    rcases hasks with rfl | rfl <;> decide
  have hascending : strayArgs.attributes.Pairwise fun a b => a.1 < b.1 := by decide +kernel
  have hserves : Serves .dnsRecordSet strayArgs := ⟨hascending, hread⟩
  have hpath : ResourceType.dnsRecordSet.definition.readPathOf "p" strayArgs =
      "projects/p/managedZones/a%2Fb%3F/rrsets/%7Btype%7D%23/%2541" := by decide +kernel
  have hlistPath : (ResourceType.dnsRecordSet.definition.listRequest "p"
      [("managedZone", "a/b")]).path = "projects/p/managedZones/a%2Fb/rrsets" := by
    decide +kernel
  have hfaithful := paths_faithful .dnsRecordSet
  refine ⟨hserves, hpath, ?_, ?_⟩
  · rw [← hpath]
    exact (hfaithful.1 "p" strayArgs hserves).1
  · rw [← hlistPath]
    exact (hfaithful.2.1 "p" [("managedZone", "a/b")] hlist).1

end Registered

end Template

end CloudInventory
