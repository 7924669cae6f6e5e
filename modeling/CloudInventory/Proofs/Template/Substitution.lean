import CloudInventory.Definition
import CloudInventory.Proofs.Dict
import CloudInventory.Proofs.Text.Percent
import Mathlib.Data.List.TakeWhile

/-! Expansion as substitution. A template is made of text and of holes, which are written as
placeholders. Values are encoded, so that what is put in has no braces: replacing one variable
after another fills the holes that the template has had from the start, and no others. -/

namespace CloudInventory.Template

open Text (percentEncode)

def isBrace (c : Char) : Bool := c == '\x7b' || c == '\x7d'

def BraceFree (cs : List Char) : Prop := ∀ c ∈ cs, isBrace c = false

instance (cs : List Char) : Decidable (BraceFree cs) :=
  List.decidableBAll (isBrace · = false) cs

theorem braceFree_percentEncode (cs : List Char) : BraceFree (percentEncode cs) := by
  intro c hc
  rcases Text.mem_percentEncode hc with hkept | rfl
  · by_contra hbrace
    simp only [isBrace, Bool.not_eq_false, Bool.or_eq_true, beq_iff_eq] at hbrace
    rcases hbrace with rfl | rfl <;> exact absurd hkept (by decide)
  · rfl

/-- A piece of a template: text, or the place of a variable. -/
inductive Part where
  | text (cs : List Char) (plain : BraceFree cs)
  | hole (name : String) (plain : BraceFree name.toList)

namespace Part

def written : Part → List Char
  | .text cs _ => cs
  | .hole name _ => placeholder name.toList

def hole? : Part → Option String
  | .text _ _ => none
  | .hole name _ => some name

/-- What stands for a part in a single pass: the encoded value of the first variable of a hole's
name, or the placeholder where there is none. -/
def value (vars : Variables) : Part → List Char
  | .text cs _ => cs
  | .hole name _ =>
    match Dict.find? name vars with
    | some value => percentEncode value.toList
    | none => placeholder name.toList

/-- Puts one variable into the holes of its name. -/
def fill (v : String × String) : Part → Part
  | .text cs plain => .text cs plain
  | .hole name plain =>
    if name = v.1 then .text (percentEncode v.2.toList) (braceFree_percentEncode _)
    else .hole name plain

end Part

def written (ps : List Part) : List Char := ps.flatMap Part.written

def holes (ps : List Part) : List String := ps.filterMap Part.hole?

/-- A single pass over a template from the left. -/
def substitute (vars : Variables) (ps : List Part) : List Char := ps.flatMap (Part.value vars)

section Replacing

variable {needle value cs rest n m : List Char} {k : Nat}

theorem replaceFrom_skip (h : cs.length = k) :
    replaceFrom needle value k (cs ++ rest) = replaceAll needle value rest := by
  induction cs generalizing k with
  | nil =>
    obtain rfl : 0 = k := h
    rfl
  | cons c cs ih =>
    obtain rfl : cs.length + 1 = k := h
    exact ih rfl

theorem replaceAll_hit (c : Char) (needle : List Char) :
    replaceAll (c :: needle) value (c :: needle ++ rest) =
      value ++ replaceAll (c :: needle) value rest := by
  have hmatch : (c :: needle).isPrefixOf (c :: (needle ++ rest)) = true :=
    List.isPrefixOf_iff_prefix.mpr (List.prefix_append (c :: needle) rest)
  rw [List.cons_append, replaceAll, replaceFrom, if_pos hmatch]
  exact congrArg (value ++ ·) (replaceFrom_skip rfl)

theorem replaceAll_miss {c : Char} (h : ¬needle <+: c :: cs) :
    replaceAll needle value (c :: cs) = c :: replaceAll needle value cs := by
  have hmiss : needle.isPrefixOf (c :: cs) = false :=
    Bool.eq_false_iff.mpr fun hm => h (List.isPrefixOf_iff_prefix.mp hm)
  rw [replaceAll, replaceFrom, hmiss]
  rfl

/-- No occurrence of a placeholder begins in text without an opening brace. -/
theorem replaceAll_text (h : '\x7b' ∉ cs) :
    replaceAll (placeholder n) value (cs ++ rest) =
      cs ++ replaceAll (placeholder n) value rest := by
  induction cs with
  | nil => rfl
  | cons c cs ih =>
    obtain ⟨hc, hcs⟩ := not_or.mp (mt List.mem_cons.mpr h)
    have hmiss : ¬placeholder n <+: c :: (cs ++ rest) := fun hm =>
      hc (List.cons_prefix_cons.mp hm).1
    rw [List.cons_append, replaceAll_miss hmiss, ih hcs, List.cons_append]

/-- The part of a name before its first brace. -/
def stem (n : List Char) : List Char := n.takeWhile fun c => !isBrace c

theorem stem_of_braceFree (h : BraceFree n) : stem n = n :=
  List.takeWhile_eq_self_iff.mpr fun c hc => by simp [h c hc]

theorem stem_of_prefix (hm : BraceFree m) (h : n ++ ['\x7d'] <+: m ++ '\x7d' :: rest) :
    stem n = m := by
  induction n generalizing m with
  | nil =>
    cases m with
    | nil => rfl
    | cons d m =>
      obtain ⟨rfl, _⟩ := List.cons_prefix_cons.mp h
      exact absurd (hm _ List.mem_cons_self) (by decide)
  | cons c n ih =>
    cases m with
    | nil =>
      obtain ⟨rfl, _⟩ := List.cons_prefix_cons.mp h
      rfl
    | cons d m =>
      obtain ⟨rfl, hrest⟩ := List.cons_prefix_cons.mp h
      obtain ⟨hc, hm⟩ := List.forall_mem_cons.mp hm
      have hstem := ih hm hrest
      simp only [stem, List.takeWhile_cons, hc, Bool.not_false, if_true] at hstem ⊢
      rw [hstem]

theorem stem_of_placeholder_prefix (hm : BraceFree m)
    (h : placeholder n <+: placeholder m ++ rest) : stem n = m := by
  have hinner : n ++ ['\x7d'] <+: m ++ ['\x7d'] ++ rest := (List.cons_prefix_cons.mp h).2
  rw [List.append_assoc] at hinner
  exact stem_of_prefix hm hinner

end Replacing

section Filling

variable {ps : List Part} {v : String × String} {vars : Variables} {n value : List Char}

@[simp] theorem written_cons (p : Part) (ps : List Part) :
    written (p :: ps) = p.written ++ written ps := List.flatMap_cons

@[simp] theorem holes_text (cs : List Char) (plain : BraceFree cs) (ps : List Part) :
    holes (.text cs plain :: ps) = holes ps := rfl

@[simp] theorem holes_hole (name : String) (plain : BraceFree name.toList) (ps : List Part) :
    holes (.hole name plain :: ps) = name :: holes ps := rfl

theorem not_opening (h : BraceFree n) : '\x7b' ∉ n := fun hc => absurd (h _ hc) (by decide)

theorem braceFree_written (h : holes ps = []) : BraceFree (written ps) := by
  induction ps with
  | nil => exact fun c hc => absurd hc List.not_mem_nil
  | cons p ps ih =>
    cases p with
    | text cs plain => exact fun c hc => (List.mem_append.mp hc).elim (plain c) (ih h c)
    | hole name plain => cases h

/-- No occurrence of this name's placeholder begins at a hole of a template: the name has no brace,
or its first brace would have to close a hole behind which there is no other. -/
def Inert (n : List Char) : List Part → Prop
  | [] => True
  | .text _ _ :: ps => Inert n ps
  | .hole name _ :: ps => (stem n = name.toList → holes ps = []) ∧ Inert n ps

/-- A name with a brace has three of them in its placeholder. -/
theorem not_prefix_of_holes_nil {m : List Char} (hm : BraceFree m) (hn : ¬BraceFree n)
    (h : holes ps = []) : ¬placeholder n <+: placeholder m ++ written ps := by
  intro hprefix
  have hcount := hprefix.sublist.countP_le (p := isBrace)
  have hfree : ∀ cs, BraceFree cs → cs.countP isBrace = 0 := fun cs hcs =>
    List.countP_eq_zero.mpr fun c hc => by simp [hcs c hc]
  have hpos : 0 < n.countP isBrace := by
    by_contra hzero
    exact hn fun c hc => by
      simpa using List.countP_eq_zero.mp (Nat.eq_zero_of_not_pos hzero) c hc
  have hopen : isBrace '\x7b' = true := rfl
  have hclose : isBrace '\x7d' = true := rfl
  simp only [placeholder, List.cons_append, List.countP_append, List.countP_cons, List.countP_nil,
    hopen, hclose, if_true, hfree m hm, hfree _ (braceFree_written h)] at hcount
  omega

/-- Replacing a variable in a template fills the holes of its name and leaves all else. -/
theorem replaceAll_written (h : BraceFree v.1.toList ∨ Inert v.1.toList ps) :
    replaceAll (placeholder v.1.toList) (percentEncode v.2.toList) (written ps) =
      written (ps.map (Part.fill v)) := by
  induction ps with
  | nil => rfl
  | cons p ps ih =>
    cases p with
    | text cs plain =>
      have hps := ih h
      rw [written_cons, List.map_cons, written_cons, ← hps]
      exact replaceAll_text (not_opening plain)
    | hole name plain =>
      have hps := ih (h.imp_right And.right)
      rw [written_cons, List.map_cons, written_cons, ← hps]
      by_cases hname : name = v.1
      · subst hname
        simp only [Part.fill, if_true]
        exact replaceAll_hit _ _
      · have hmiss : ¬placeholder v.1.toList <+: placeholder name.toList ++ written ps := by
          intro hprefix
          have hstem := stem_of_placeholder_prefix plain hprefix
          rcases Decidable.em (BraceFree v.1.toList) with hfree | hbrace
          · rw [stem_of_braceFree hfree] at hstem
            exact hname (String.toList_inj.mp hstem.symm)
          · have hlast := (h.resolve_left hbrace).1 hstem
            exact not_prefix_of_holes_nil plain hbrace hlast hprefix
        have hrest : '\x7b' ∉ name.toList ++ ['\x7d'] := by
          simpa using not_opening plain
        simp only [Part.fill, if_neg hname, Part.written, placeholder, List.cons_append] at hmiss ⊢
        rw [replaceAll_miss hmiss]
        exact congrArg _ (replaceAll_text hrest)

theorem substitute_nil (ps : List Part) : substitute [] ps = written ps := by
  refine List.flatMap_congr fun p _ => ?_
  cases p <;> rfl

theorem value_fill (v : String × String) (vars : Variables) (p : Part) :
    (p.fill v).value vars = p.value (v :: vars) := by
  cases p with
  | text cs plain => rfl
  | hole name plain =>
    by_cases hname : name = v.1
    · subst hname
      simp only [Part.fill, Part.value, Dict.find?, if_true]
    · simp only [Part.fill, Part.value, Dict.find?, if_neg hname, if_neg (Ne.symm hname)]

theorem substitute_map_fill (v : String × String) (vars : Variables) (ps : List Part) :
    substitute vars (ps.map (Part.fill v)) = substitute (v :: vars) ps := by
  rw [substitute, List.flatMap_map]
  exact List.flatMap_congr fun p _ => value_fill v vars p

theorem holes_map_fill (v : String × String) (ps : List Part) :
    holes (ps.map (Part.fill v)) = (holes ps).filter (· ≠ v.1) := by
  induction ps with
  | nil => rfl
  | cons p ps ih =>
    cases p with
    | text cs plain => exact ih
    | hole name plain =>
      by_cases hname : name = v.1
      · simp only [List.map_cons, Part.fill, if_pos hname, holes_text, holes_hole, ih]
        rw [List.filter_cons_of_neg (by simpa using hname)]
      · simp only [List.map_cons, Part.fill, if_neg hname, holes_hole, ih]
        rw [List.filter_cons_of_pos (by simpa using hname)]

/-- No variable has its placeholder anywhere in a template but at the holes of its name, at the time
when its turn comes. -/
def Harmless : Variables → List Part → Prop
  | [], _ => True
  | v :: vars, ps =>
    (BraceFree v.1.toList ∨ Inert v.1.toList ps) ∧ Harmless vars (ps.map (Part.fill v))

theorem expandWith_written (h : Harmless vars ps) :
    expandWith percentEncode vars (written ps) = substitute vars ps := by
  induction vars generalizing ps with
  | nil => exact (substitute_nil ps).symm
  | cons v vars ih =>
    have hfirst : expandWith percentEncode (v :: vars) (written ps) =
        expandWith percentEncode vars (written (ps.map (Part.fill v))) :=
      congrArg (expandWith percentEncode vars) (replaceAll_written h.1)
    rw [hfirst, ih h.2, substitute_map_fill]

theorem expandPath_written (h : Harmless vars ps) :
    expandPath (String.ofList (written ps)) vars = String.ofList (substitute vars ps) := by
  rw [expandPath, String.toList_ofList, expandWith_written h]

theorem harmless_of_braceFree (h : ∀ v ∈ vars, BraceFree v.1.toList) : Harmless vars ps := by
  induction vars generalizing ps with
  | nil => trivial
  | cons v vars ih =>
    obtain ⟨hv, hvars⟩ := List.forall_mem_cons.mp h
    exact ⟨.inl hv, ih hvars⟩

end Filling

section Substituting

variable {ps : List Part} {vars vars' : Variables}

/-- A pass asks for nothing but the variables of a template's holes. -/
theorem substitute_congr (h : ∀ name ∈ holes ps, Dict.find? name vars = Dict.find? name vars') :
    substitute vars ps = substitute vars' ps := by
  refine List.flatMap_congr fun p hp => ?_
  cases p with
  | text cs plain => rfl
  | hole name plain =>
    have hname : name ∈ holes ps := List.mem_filterMap.mpr ⟨_, hp, rfl⟩
    simp only [Part.value, h name hname]

/-- A variable does nothing where a template has no hole for it, or where another of its name comes
first. -/
theorem find?_omit {before after : Variables} {v : String × String} {name : String}
    (h : v.1 ≠ name ∨ v.1 ∈ before.map (·.1)) :
    Dict.find? name (before ++ v :: after) = Dict.find? name (before ++ after) := by
  rw [Dict.find?_append, Dict.find?_append]
  by_cases hname : v.1 = name
  · subst hname
    have hbound := Dict.find?_isSome_iff.mpr (h.resolve_left (absurd rfl))
    obtain ⟨value, hvalue⟩ := Option.isSome_iff_exists.mp hbound
    rw [hvalue, Option.some_or, Option.some_or]
  · rw [Dict.find?, if_neg hname]

theorem find?_readVariables (project : String) (args : ReadArgs) (name : String) :
    Dict.find? name (Definition.readVariables project args) =
      Dict.find? name (Definition.readVariables project { args with
        attributes := args.attributes.filter fun a => a.1 ≠ "project" ∧ a.1 ≠ "id" }) := by
  have hboth : (args.attributes.filter fun a => a.1 ≠ "project" ∧ a.1 ≠ "id") =
      (args.attributes.filter (·.1 ≠ "id")).filter (·.1 ≠ "project") := by
    simp only [List.filter_filter, ne_eq, Bool.decide_and]
  by_cases hproject : "project" = name
  · simp only [Definition.readVariables, Dict.find?, if_pos hproject]
  · by_cases hid : "id" = name
    · simp only [Definition.readVariables, Dict.find?, if_neg hproject, if_pos hid]
    · simp only [Definition.readVariables, Dict.find?, if_neg hproject, if_neg hid]
      rw [hboth, Dict.find?_filter (Ne.symm hproject), Dict.find?_filter (Ne.symm hid)]

/-- Replacing one variable after another over a whole template is a single pass over it. A variable
whose name only stands in values is never put in, nor is a second one of a name, such as an
attribute called `project` or `id`; the order of variables of different names is of no matter. -/
theorem expand_eq_substitute (ps : List Part) (vars : Variables)
    (hvars : ∀ v ∈ vars, BraceFree v.1.toList) :
    expandPath (String.ofList (written ps)) vars = String.ofList (substitute vars ps) ∧
    (∀ before v after, vars = before ++ v :: after →
      v.1 ∉ holes ps ∨ v.1 ∈ before.map (·.1) →
      expandPath (String.ofList (written ps)) vars =
        expandPath (String.ofList (written ps)) (before ++ after)) ∧
    (∀ vars' : Variables, vars'.Perm vars → (vars.map (·.1)).Nodup →
      expandPath (String.ofList (written ps)) vars' =
        expandPath (String.ofList (written ps)) vars) ∧
    ∀ (d : Definition) (project : String) (args : ReadArgs), args.attributes = vars →
      d.readPath = String.ofList (written ps) →
      d.readPathOf project args = d.readPathOf project { args with
        attributes := vars.filter fun a => a.1 ≠ "project" ∧ a.1 ≠ "id" } := by
  have hpass : ∀ vars : Variables, (∀ v ∈ vars, BraceFree v.1.toList) →
      expandPath (String.ofList (written ps)) vars = String.ofList (substitute vars ps) :=
    fun vars hvars => expandPath_written (harmless_of_braceFree hvars)
  refine ⟨hpass vars hvars, ?_, ?_, ?_⟩
  · rintro before v after rfl hv
    have hothers : ∀ v ∈ before ++ after, BraceFree v.1.toList := fun w hw =>
      hvars w (by simp only [List.mem_append, List.mem_cons] at hw ⊢; tauto)
    rw [hpass _ hvars, hpass _ hothers]
    refine congrArg String.ofList (substitute_congr fun name hname => find?_omit ?_)
    exact hv.imp_left fun hnot hsame => hnot (hsame ▸ hname)
  · intro vars' hperm hnodup
    have hvars' : ∀ v ∈ vars', BraceFree v.1.toList := fun v hv => hvars v (hperm.subset hv)
    rw [hpass _ hvars, hpass _ hvars']
    refine congrArg String.ofList (substitute_congr fun name _ => ?_)
    exact (Dict.find?_perm hperm.symm hnodup name).symm
  · rintro d project args rfl hpath
    have hproject : BraceFree "project".toList := by decide
    have hid : BraceFree "id".toList := by decide
    have hfixed : ∀ attributes : Dict String, (∀ a ∈ attributes, BraceFree a.1.toList) →
        ∀ v ∈ Definition.readVariables project { args with attributes }, BraceFree v.1.toList :=
      fun attributes h => List.forall_mem_cons.mpr ⟨hproject, List.forall_mem_cons.mpr ⟨hid, h⟩⟩
    have hkept : ∀ a ∈ args.attributes.filter fun a => a.1 ≠ "project" ∧ a.1 ≠ "id",
        BraceFree a.1.toList := fun a ha => hvars a (List.mem_of_mem_filter ha)
    rw [Definition.readPathOf, Definition.readPathOf, hpath, hpass _ (hfixed _ hvars),
      hpass _ (hfixed _ hkept)]
    exact congrArg String.ofList
      (substitute_congr fun name _ => find?_readVariables project args name)

/-- A path of two holes. -/
def nestedPath : List Part :=
  [.text ['p', '/'] (by decide), .hole "project" (by decide), .text ['/'] (by decide),
    .hole "id" (by decide), .text ['/'] (by decide), .hole "zone" (by decide)]

/-- Values that look like placeholders, and a second variable of a name. -/
theorem nestedPath_expands :
    (∀ v ∈ [("project", "\x7bid\x7d"), ("id", "a/\x7bproject\x7d"), ("id", "b")],
      BraceFree v.1.toList) ∧
    expandPath "p/\x7bproject\x7d/\x7bid\x7d/\x7bzone\x7d"
        [("project", "\x7bid\x7d"), ("id", "a/\x7bproject\x7d"), ("id", "b")] =
      "p/%7Bid%7D/a%2F%7Bproject%7D/\x7bzone\x7d" ∧
    expandPath "p/\x7bproject\x7d/\x7bid\x7d/\x7bzone\x7d"
        [("id", "a/\x7bproject\x7d"), ("project", "\x7bid\x7d")] =
      "p/%7Bid%7D/a%2F%7Bproject%7D/\x7bzone\x7d" := by
  have hvars : ∀ v ∈ [("project", "\x7bid\x7d"), ("id", "a/\x7bproject\x7d"), ("id", "b")],
      BraceFree v.1.toList := by decide
  have hvars' : ∀ v ∈ [("project", "\x7bid\x7d"), ("id", "a/\x7bproject\x7d")],
      BraceFree v.1.toList := by decide
  obtain ⟨hpass, homit, _, _⟩ := expand_eq_substitute nestedPath _ hvars
  obtain ⟨_, _, hperm, _⟩ := expand_eq_substitute nestedPath _ hvars'
  have hvalue : String.ofList (substitute
      [("project", "\x7bid\x7d"), ("id", "a/\x7bproject\x7d"), ("id", "b")] nestedPath) =
      "p/%7Bid%7D/a%2F%7Bproject%7D/\x7bzone\x7d" := by decide +kernel
  have hsecond := homit [("project", "\x7bid\x7d"), ("id", "a/\x7bproject\x7d")] ("id", "b") [] rfl
    (.inr (by decide))
  have hswapped := hperm [("id", "a/\x7bproject\x7d"), ("project", "\x7bid\x7d")]
    (.swap _ _ _) (by decide)
  exact ⟨hvars, hpass.trans hvalue, hswapped.trans (hsecond.symm.trans (hpass.trans hvalue))⟩

end Substituting

end CloudInventory.Template
