import CloudInventory.Proofs.CommandLine.Checks
import CloudInventory.Proofs.Project.Lines
import CloudInventory.Proofs.Text.Order

/-! The project of a run. The places that may name it are asked in turn; a malformed name is passed
over where it comes from the environment or a file, and is the end of the run where it is given or
configured. Of the files of settings, no more are read than these. -/

namespace CloudInventory

namespace Project

variable {e : Environment} {id : String} {dir p : Path}

def InVariable (e : Environment) (v id : String) : Prop :=
  e.setting? v = some (.text id) ∧ WellFormed id

def InFile (e : Environment) (coreOnly : Bool) (p : Path) (id : String) : Prop :=
  ∃ content, e.text? p = some content ∧
    FirstNamed coreOnly [] ((Text.lines content.toList).map Line.ofChars) id

structure IsName (name : String) : Prop where
  ne_empty : name ≠ ""
  chars : ∀ c ∈ name.toList, 'A' ≤ c ∧ c ≤ 'Z' ∨ 'a' ≤ c ∧ c ≤ 'z' ∨ '0' ≤ c ∧ c ≤ '9' ∨
    c = '-' ∨ c = '_'

/-- The configuration that is marked active, if the mark is the name of one. -/
def Active (e : Environment) (dir : Path) (name : String) : Prop :=
  IsName name ∧ ∃ content, e.text? (dir.child "active_config") = some content ∧
    Text.trim content.toList = name.toList

def configurationFile (dir : Path) (name : String) : Path :=
  (dir.child "configurations").child ("config_" ++ name)

/-- The project that is meant where none is given. -/
inductive Found (e : Environment) (id : String) : Prop
  | inVariable {before after : List String} {v : String} : settingNames = before ++ v :: after →
      (∀ u ∈ before, ∀ id', ¬InVariable e u id') → InVariable e v id → Found e id
  | inProperties {dir : Path} : (∀ u ∈ settingNames, ∀ id', ¬InVariable e u id') →
      settingsDir? e = some dir → InFile e false (dir.child "properties") id → Found e id
  | inActive {dir : Path} {name : String} : (∀ u ∈ settingNames, ∀ id', ¬InVariable e u id') →
      settingsDir? e = some dir → (∀ id', ¬InFile e false (dir.child "properties") id') →
      Active e dir name → InFile e true (configurationFile dir name) id → Found e id

theorem ofFile_eq_some_iff {coreOnly : Bool} :
    ofFile coreOnly e p = some id ↔ InFile e coreOnly p id := by
  simp only [ofFile, InFile, Option.bind_eq_some_iff, ofText_eq_some_iff]

theorem isNameChar_iff {c : Char} : isNameChar c = true ↔
    'A' ≤ c ∧ c ≤ 'Z' ∨ 'a' ≤ c ∧ c ≤ 'z' ∨ '0' ≤ c ∧ c ≤ '9' ∨ c = '-' ∨ c = '_' := by
  have halpha : c.isAlphanum = true ↔ (c.isUpper = true ∨ c.isLower = true) ∨ c.isDigit = true :=
    Bool.or_eq_true_iff.trans (or_congr_left Bool.or_eq_true_iff)
  simp only [isNameChar, Bool.or_eq_true, halpha, isUpper_iff, isLower_iff, isDigit_iff,
    beq_iff_eq, or_assoc]

theorem activeName?_eq_some_iff {content name : String} : activeName? content = some name ↔
    IsName name ∧ Text.trim content.toList = name.toList := by
  have hname : ∀ cs : List Char, (!cs.isEmpty && cs.all isNameChar) = true ↔
      IsName (String.ofList cs) := by
    intro cs
    have hempty : String.ofList cs ≠ "" ↔ cs ≠ [] := by
      rw [← String.toList_inj.ne, String.toList_ofList]
      rfl
    constructor
    · intro h
      obtain ⟨hne, hall⟩ := Bool.and_eq_true_iff.mp h
      refine ⟨hempty.mpr (by simpa using hne), fun c hc => isNameChar_iff.mp ?_⟩
      rw [String.toList_ofList] at hc
      exact List.all_eq_true.mp hall c hc
    · rintro ⟨hne, hall⟩
      rw [String.toList_ofList] at hall
      refine Bool.and_eq_true_iff.mpr ⟨by simpa using hempty.mp hne, List.all_eq_true.mpr ?_⟩
      exact fun c hc => isNameChar_iff.mpr (hall c hc)
  simp only [activeName?, hname, Option.ite_none_right_eq_some, Option.some.injEq]
  constructor
  · rintro ⟨hn, rfl⟩
    exact ⟨hn, String.toList_ofList.symm⟩
  · rintro ⟨hn, htrim⟩
    rw [htrim, String.ofList_toList]
    exact ⟨hn, rfl⟩

theorem activeFile?_eq_some_iff : activeFile? e dir = some p ↔
    ∃ name, Active e dir name ∧ p = configurationFile dir name := by
  have hfile : ∀ name : String, (dir.child "configurations").child s!"config_{name}" =
      configurationFile dir name := fun _ => rfl
  simp only [activeFile?, hfile, Option.map_eq_some_iff, Option.bind_eq_some_iff,
    activeName?_eq_some_iff, Active]
  constructor
  · rintro ⟨name, ⟨content, hcontent, hname, htrim⟩, rfl⟩
    exact ⟨name, ⟨hname, content, hcontent, htrim⟩, rfl⟩
  · rintro ⟨name, ⟨hname, content, hcontent, htrim⟩, rfl⟩
    exact ⟨name, ⟨content, hcontent, hname, htrim⟩, rfl⟩

theorem ofVariable_eq_some_iff {v : String} :
    ((e.setting? v).bind Setting.text?).filter isWellFormed = some id ↔ InVariable e v id := by
  rw [Option.filter_eq_some_iff, isWellFormed_iff, InVariable]
  refine and_congr_left' ?_
  cases e.setting? v with
  | none => simp
  | some setting => cases setting <;> simp [Setting.text?]

theorem ofVariables_eq_some_iff : ofVariables e = some id ↔ ∃ before v after,
    settingNames = before ++ v :: after ∧ (∀ u ∈ before, ∀ id', ¬InVariable e u id') ∧
      InVariable e v id := by
  simp only [ofVariables, List.findSome?_eq_some_iff, ofVariable_eq_some_iff,
    Option.eq_none_iff_forall_ne_some, ne_eq, and_comm (a := InVariable e _ _)]

theorem ofVariables_eq_none_iff :
    ofVariables e = none ↔ ∀ u ∈ settingNames, ∀ id', ¬InVariable e u id' := by
  rw [ofVariables, List.findSome?_eq_none_iff]
  simp only [Option.eq_none_iff_forall_ne_some, ne_eq, ofVariable_eq_some_iff]

theorem default?_eq_some_iff : default? e = some id ↔ Found e id := by
  have hdir : (settingsDir? e).bind (ofSettings e) = some id ↔ ∃ dir, settingsDir? e = some dir ∧
      (InFile e false (dir.child "properties") id ∨
        (∀ id', ¬InFile e false (dir.child "properties") id') ∧
          ∃ name, Active e dir name ∧ InFile e true (configurationFile dir name) id) := by
    simp only [Option.bind_eq_some_iff, ofSettings, Option.or_eq_some_iff, ofFile_eq_some_iff,
      Option.eq_none_iff_forall_ne_some, ne_eq, activeFile?_eq_some_iff]
    grind
  rw [default?, Option.or_eq_some_iff, ofVariables_eq_some_iff, ofVariables_eq_none_iff, hdir]
  constructor
  · rintro (⟨before, v, after, hsplit, hbefore, hv⟩ | ⟨hnone, dir, hsettings, hfile | hactive⟩)
    · exact .inVariable hsplit hbefore hv
    · exact .inProperties hnone hsettings hfile
    · obtain ⟨hproperties, name, hname, hfile⟩ := hactive
      exact .inActive hnone hsettings hproperties hname hfile
  · intro h
    cases h with
    | inVariable hsplit hbefore hv => exact .inl ⟨_, _, _, hsplit, hbefore, hv⟩
    | inProperties hnone hsettings hfile => exact .inr ⟨hnone, _, hsettings, .inl hfile⟩
    | inActive hnone hsettings hproperties hname hfile =>
      exact .inr ⟨hnone, _, hsettings, .inr ⟨hproperties, _, hname, hfile⟩⟩

end Project

namespace Plan

variable {o : Options} {e : Environment} {p : Plan} {id id' : String}

/-- The project that a run is about: the one given, else the one configured, else the one that the
environment or a file names. -/
inductive Resolves (o : Options) (e : Environment) (id : String) : Prop
  | given : o.project = some id → Resolves o e id
  | configured : o.project = none → (Config.load e).project = some id → Resolves o e id
  | found : o.project = none → (Config.load e).project = none → Project.Found e id →
      Resolves o e id

theorem resolves_iff :
    (o.project.or (Config.load e).project).or (Project.default? e) = some id ↔
      Resolves o e id := by
  simp only [Option.or_eq_some_iff, Option.or_eq_none_iff, Project.default?_eq_some_iff]
  constructor
  · rintro ((hgiven | ⟨hgiven, hconfigured⟩) | ⟨⟨hgiven, hconfigured⟩, hfound⟩)
    · exact .given hgiven
    · exact .configured hgiven hconfigured
    · exact .found hgiven hconfigured hfound
  · intro h
    cases h with
    | given hgiven => exact .inl (.inl hgiven)
    | configured hgiven hconfigured => exact .inl (.inr ⟨hgiven, hconfigured⟩)
    | found hgiven hconfigured hfound => exact .inr ⟨⟨hgiven, hconfigured⟩, hfound⟩

theorem Resolves.unique (h : Resolves o e id) (h' : Resolves o e id') : id = id' :=
  Option.some.inj ((resolves_iff.mpr h).symm.trans (resolves_iff.mpr h'))

theorem Checked.resolves (h : Checked o e p) : Resolves o e p.project :=
  resolves_iff.mp h.project

theorem Fails.of_malformed (h : Resolves o e id) (hformed : ¬Project.WellFormed id) :
    Fails o e := by
  refine .project (resolves_iff.mpr h) (Bool.eq_false_iff.mpr ?_)
  rwa [ne_eq, Project.isWellFormed_iff]

theorem Fails.of_unresolved (h : ∀ id, ¬Resolves o e id) : Fails o e := by
  refine .noProject (Option.eq_none_iff_forall_ne_some.mpr fun id hid => ?_)
  exact h id (resolves_iff.mp hid)

end Plan

namespace Run

variable {w : World} {o : Options} {p : Plan} {arguments : List String} {fuel : Nat}

structure Quiet (r : Outcome) : Prop where
  calls : r.calls = []
  reads : r.reads = []

/-- What a run asks for and reports is the scan of a plan's project. -/
def Scans (w : World) (p : Plan) (r : Outcome) : Prop :=
  ∃ token errors u, Survey.Executed (clientOf w p token).source p.project p.types
      p.config.parallelism.toNat Alerts.empty u ∧ Reports w p errors u r

theorem Idle.quiet {e : Environment} {r : Outcome} (h : Idle e r) : Quiet r := ⟨h.calls, h.reads⟩

theorem client_cases (h : p.Checked o w.environment) {c : Client} (hc : client w p = .ok c) :
    ∃ token, c = clientOf w p token := by
  cases hcredentials : w.credentials with
  | error e => simp [client, hcredentials, Except.bind] at hc
  | ok token =>
    rw [client_of_checked h hcredentials] at hc
    exact ⟨token, (Except.ok.inj hc).symm⟩

theorem execute_quiet_or_scans (h : p.Checked o w.environment) (fuel : Nat) {r : Outcome}
    (hexit : r.exitCode = 0) (houtput : r.output = "") (hr : Quiet r) :
    Quiet (execute w p fuel r) ∨ Scans w p (execute w p fuel r) := by
  cases hstore : store w p with
  | error f =>
    simp only [execute, hstore]
    exact .inl ⟨hr.calls, hr.reads⟩
  | ok stored =>
    cases hclient : client w p with
    | error f =>
      simp only [execute, hstore, hclient]
      exact .inl ⟨hr.calls, hr.reads⟩
    | ok c =>
      by_cases hle : p.config.parallelism.toNat ≤ Pool.maxPermits
      · obtain ⟨token, rfl⟩ := client_cases h hclient
        obtain ⟨u, hu, hreports⟩ := scan_reports w p (clientOf w p token)
          p.config.parallelism.toNat fuel (r := { r with stored }) hexit houtput
        simp only [execute, hstore, hclient, Pool.new?_eq, if_pos hle]
        exact .inr ⟨token, _, u, hu, hreports⟩
      · simp only [execute, hstore, hclient, Pool.new?_eq, if_neg hle]
        exact .inl ⟨hr.calls, hr.reads⟩

theorem quiet_or_scans (w : World) (arguments : List String) (fuel : Nat) :
    Quiet (run w arguments fuel) ∨ ∃ o p, Options.read arguments = .ok (.run o) ∧
      p.Checked o w.environment ∧ Scans w p (run w arguments fuel) := by
  by_cases hread : ∃ o, Options.read arguments = .ok (.run o)
  · obtain ⟨o, hread⟩ := hread
    have hidle := openLog_idle w o
    cases hlist : o.listTypes with
    | true =>
      simp only [run, hread, withOptions, hlist, if_true]
      exact .inl ⟨hidle.calls, hidle.reads⟩
    | false =>
      cases hplan : Plan.of o w.environment with
      | error f =>
        rw [run_eq_failed hread hlist hplan rfl rfl]
        exact .inl (hidle.failed f).quiet
      | ok p =>
        have hchecked := Plan.of_eq_ok_iff.mp hplan
        have hopened := openLog_succeeds w o
        rw [run_eq_execute hread hlist hplan]
        refine (execute_quiet_or_scans hchecked fuel hopened.1 hopened.2 hidle.quiet).imp_right ?_
        exact fun hscans => ⟨o, p, hread, hchecked, hscans⟩
  · exact .inl (idle_of_not_run (not_exists.mp hread) fuel).quiet

/-- The files that a run may read. -/
inductive MayRead (e : Environment) : Path → Prop
  | config {file : Path} : Config.file? e = some file → MayRead e file
  | properties {dir : Path} : Project.settingsDir? e = some dir →
      MayRead e (dir.child "properties")
  | mark {dir : Path} : Project.settingsDir? e = some dir → MayRead e (dir.child "active_config")
  | configuration {dir : Path} {name : String} : Project.settingsDir? e = some dir →
      Project.Active e dir name → MayRead e (Project.configurationFile dir name)

def withFiles (e : Environment) (octets? : Path → Option (List UInt8)) : Environment :=
  { e with octets? }

section Files

variable {e : Environment} {octets? : Path → Option (List UInt8)}

theorem text?_withFiles {file : Path} (h : octets? file = e.octets? file) :
    (withFiles e octets?).text? file = e.text? file := by
  simp only [withFiles, Environment.text?, h]

theorem default?_withFiles (h : ∀ file, MayRead e file → octets? file = e.octets? file) :
    Project.default? (withFiles e octets?) = Project.default? e := by
  have hvariables : Project.ofVariables (withFiles e octets?) = Project.ofVariables e := rfl
  have hdir : Project.settingsDir? (withFiles e octets?) = Project.settingsDir? e := rfl
  have hfile : ∀ coreOnly file, MayRead e file →
      Project.ofFile coreOnly (withFiles e octets?) file = Project.ofFile coreOnly e file := by
    intro coreOnly file hmay
    rw [Project.ofFile, Project.ofFile, text?_withFiles (h file hmay)]
  rw [Project.default?, Project.default?, hvariables, hdir]
  cases hsettings : Project.settingsDir? e with
  | none => rfl
  | some dir =>
    -- the mark comes first: it decides which configuration may be read at all
    have hactive : Project.activeFile? (withFiles e octets?) dir = Project.activeFile? e dir := by
      rw [Project.activeFile?, Project.activeFile?, text?_withFiles (h _ (.mark hsettings))]
    have hcore : (Project.activeFile? e dir).bind (Project.ofFile true (withFiles e octets?)) =
        (Project.activeFile? e dir).bind (Project.ofFile true e) := by
      cases hp : Project.activeFile? e dir with
      | none => rfl
      | some file =>
        obtain ⟨name, hname, rfl⟩ := Project.activeFile?_eq_some_iff.mp hp
        exact hfile true _ (.configuration hsettings hname)
    rw [Option.bind_some, Option.bind_some, Project.ofSettings, Project.ofSettings, hactive, hcore,
      hfile false _ (.properties hsettings)]

theorem plan_withFiles (o : Options) (h : ∀ file, MayRead e file → octets? file = e.octets? file) :
    Plan.of o (withFiles e octets?) = Plan.of o e := by
  have hload : Config.load (withFiles e octets?) = Config.load e := by
    have hfile : Config.file? (withFiles e octets?) = Config.file? e := rfl
    rw [Config.load, Config.load, hfile]
    cases hstored : Config.file? e with
    | none => rfl
    | some file => exact congrArg Config.ofOctets (h file (.config hstored))
  have hproject : ∀ c, Plan.checkedProject (withFiles e octets?) c = Plan.checkedProject e c := by
    intro c
    simp only [Plan.checkedProject, Config.effectiveProject?, default?_withFiles h]
  simp only [Plan.of, hload, hproject]

/-- What other files hold makes no difference. -/
theorem run_withFiles (w : World) (arguments : List String) (fuel : Nat)
    (h : ∀ file, MayRead w.environment file → octets? file = w.environment.octets? file) :
    run { w with environment := withFiles w.environment octets? } arguments fuel =
      run w arguments fuel := by
  have hoptions : ∀ o, withOptions { w with environment := withFiles w.environment octets? } o
      fuel = withOptions w o fuel := by
    intro o
    simp only [withOptions, plan_withFiles o h]
    rfl
  simp only [run, hoptions]

end Files

/-- A run scans the one project that the first place to name it names, and that is well formed.
Where that place is the command line or the configuration, and the name malformed, or where there is
no place, the run ends in an error and asks for nothing. Of all configurations of the settings it
reads the one marked active, and no other file of theirs, whatever the mark says. -/
theorem project_resolved (w : World) (arguments : List String) (fuel : Nat) :
    let e := w.environment
    let r := run w arguments fuel
    (Quiet r ∨ ∃ o p, Options.read arguments = .ok (.run o) ∧ p.Checked o e ∧
      Plan.Resolves o e p.project ∧ Project.WellFormed p.project ∧ Scans w p r) ∧
    (∀ o, Options.read arguments = .ok (.run o) → o.listTypes = false →
      (∀ id, Plan.Resolves o e id → (∀ id', Plan.Resolves o e id' → id' = id) ∧
        (¬Plan.Fails o e → Project.WellFormed id ∧
          ∃ p, p.Checked o e ∧ p.project = id ∧ Follows w o p r)) ∧
      ((∀ id, Plan.Resolves o e id → ¬Project.WellFormed id) →
        r.exitCode = 1 ∧ r.output = "" ∧ Idle e r)) ∧
    (∀ file, MayRead e file → Config.file? e = some file ∨
      ∃ dir, Project.settingsDir? e = some dir ∧
        (file = dir.child "properties" ∨ file = dir.child "active_config" ∨
          ∃ name, Project.IsName name ∧ file = Project.configurationFile dir name)) ∧
    ∀ octets? : Path → Option (List UInt8),
      (∀ file, MayRead e file → octets? file = e.octets? file) →
        run { w with environment := withFiles e octets? } arguments fuel = r := by
  intro e r
  refine ⟨?_, fun o hread hlist => ⟨fun id hid => ⟨fun id' h' => h'.unique hid, fun hpasses => ?_⟩,
    fun hnone => ?_⟩, fun file hmay => ?_, fun octets? h => run_withFiles w arguments fuel h⟩
  · refine (quiet_or_scans w arguments fuel).imp_right fun ⟨o, p, hread, hp, hscans⟩ => ?_
    exact ⟨o, p, hread, hp, hp.resolves, Project.isWellFormed_iff.mp hp.wellFormed, hscans⟩
  · obtain ⟨p, hp⟩ := Plan.checked_of_not_fails hpasses
    obtain rfl := hid.unique hp.resolves
    have hrun : r = execute w p fuel (openLog w o) :=
      run_eq_execute hread hlist (Plan.of_eq_ok_iff.mpr hp) fuel
    rw [hrun]
    exact ⟨Project.isWellFormed_iff.mp hp.wellFormed, p, hp, rfl, execute_follows hp fuel⟩
  · have hfails : Plan.Fails o e := by
      by_cases hsome : ∃ id, Plan.Resolves o e id
      · obtain ⟨id, hid⟩ := hsome
        exact .of_malformed hid (hnone id hid)
      · exact .of_unresolved (not_exists.mp hsome)
    obtain ⟨f, hplan⟩ := Plan.of_eq_error_of_fails hfails
    have hrun : r = failed f (openLog w o) := run_eq_failed hread hlist hplan rfl rfl fuel
    rw [hrun]
    exact ⟨rfl, (openLog_succeeds w o).2, (openLog_idle w o).failed f⟩
  · cases hmay with
    | config hstored => exact .inl hstored
    | properties hdir => exact .inr ⟨_, hdir, .inl rfl⟩
    | mark hdir => exact .inr ⟨_, hdir, .inr (.inl rfl)⟩
    | configuration hdir hactive => exact .inr ⟨_, hdir, .inr (.inr ⟨_, hactive.1, rfl⟩)⟩

/-- One variable names a project badly, another in octets that are no text, and the configuration
that is marked active names one well. -/
def settledWorld : World :=
  { openWorld with
    environment := {
      setting? name :=
        if name = "HOME" then some (.text "/home/u")
        else if name = "CLOUDSDK_CORE_PROJECT" then some (.text "Work")
        else if name = "GOOGLE_CLOUD_PROJECT" then some (.octets [255])
        else none
      accountHome := none
      octets? file :=
        if file = ⟨.text "/home/u", [".config", "gcloud", "active_config"]⟩ then
          some (Text.octets "work\n")
        else if file =
            ⟨.text "/home/u", [".config", "gcloud", "configurations", "config_work"]⟩ then
          some (Text.octets "[core]\nproject = work-project\n")
        else none } }

def settledPlan : Plan where
  config := { project := some "work-project" }
  project := "work-project"
  types := [.computeNetwork]
  stores := false
  format := .json

/-- A second configuration beside the one that is marked active. -/
def otherFiles (file : Path) : Option (List UInt8) :=
  if file.below.getLast? = some "config_other" then
    some (Text.octets "[core]\nproject = other-one\n")
  else settledWorld.environment.octets? file

theorem settledWorld_resolved :
    let e := settledWorld.environment
    let r := run settledWorld ["--only", "google_compute_network"] 9
    let refused := run settledWorld ["--project", "Work"] 9
    let other : World := { settledWorld with environment := withFiles e otherFiles }
    Plan.Resolves { only := ["google_compute_network"] } e "work-project" ∧
      Scans settledWorld settledPlan r ∧ refused.exitCode = 1 ∧ Idle e refused ∧
      run other ["--only", "google_compute_network"] 9 = r := by
  intro e r refused other
  let o : Options := { only := ["google_compute_network"] }
  have hdefault : Project.default? e = some "work-project" := by decide +kernel
  have hresolves : Plan.Resolves o e "work-project" :=
    .found rfl rfl (Project.default?_eq_some_iff.mp hdefault)
  have hplan : Plan.of o e = .ok settledPlan := rfl
  obtain ⟨_, hscanned, _, hfiles⟩ :=
    project_resolved settledWorld ["--only", "google_compute_network"] 9
  obtain ⟨_, hrefused, _⟩ := project_resolved settledWorld ["--project", "Work"] 9
  obtain ⟨_, p, hchecked, _, hfollows⟩ :=
    ((hscanned o rfl rfl).1 _ hresolves).2 (Plan.of_eq_ok_iff.mp hplan).not_fails
  obtain rfl : settledPlan = p :=
    Except.ok.inj (hplan.symm.trans (Plan.of_eq_ok_iff.mpr hchecked))
  have hmalformed : ∀ id, Plan.Resolves { project := some "Work" } e id →
      ¬Project.WellFormed id := by
    intro id hid hformed
    obtain rfl : id = "Work" := hid.unique (.given rfl)
    exact absurd hformed.length.1 (by decide)
  obtain ⟨hexit, _, hidle⟩ := (hrefused _ rfl rfl).2 hmalformed
  refine ⟨hresolves, ?_, hexit, hidle, hfiles _ fun file hmay => ?_⟩
  · exact ⟨.ok "token", _, hfollows.scans (fun _ _ => rfl) (.ok "token") rfl (by decide)⟩
  · have hdir : Project.settingsDir? e = some ⟨.text "/home/u", [".config", "gcloud"]⟩ := rfl
    refine if_neg fun hlast => ?_
    cases hmay with
    | config hstored =>
      obtain rfl := Option.some.inj hstored
      exact absurd hlast (by decide)
    | properties hsettings | mark hsettings =>
      obtain rfl := Option.some.inj (hdir.symm.trans hsettings)
      exact absurd hlast (by decide)
    | configuration hsettings hactive =>
      obtain rfl := Option.some.inj (hdir.symm.trans hsettings)
      have hmarked : Project.activeFile? e ⟨.text "/home/u", [".config", "gcloud"]⟩ =
          some ⟨.text "/home/u", [".config", "gcloud", "configurations", "config_work"]⟩ := by
        decide +kernel
      have hsame := Project.activeFile?_eq_some_iff.mpr ⟨_, hactive, rfl⟩
      rw [← Option.some.inj (hmarked.symm.trans hsame)] at hlast
      exact absurd hlast (by decide)

end Run

end CloudInventory
