import CloudInventory.Proofs.CommandLine.Plans
import CloudInventory.Proofs.Scan.Rounds

/-! What a run does before it scans, and what it scans. It acts on nothing until all checks have
passed, and scans the types that are selected and no others. -/

namespace CloudInventory

namespace ApiRoot

/-- An address of the web. -/
def IsWeb (root : String) : Prop :=
  Web.Url.scheme root = .ok "http" ∨ Web.Url.scheme root = .ok "https"

theorem fault?_eq_none_iff {root : String} : fault? root = none ↔ IsWeb root := by
  unfold fault? IsWeb
  cases Web.Url.scheme root with
  | error flaw => simp
  | ok scheme => by_cases hscheme : scheme = "http" ∨ scheme = "https" <;> simp [hscheme]

theorem check_ok_iff {ε : Type} (report : String → Fault → ε) {root? : Option String} :
    check report root? = .ok () ↔ ∀ root, root? = some root → IsWeb root := by
  cases root? with
  | none => simp [check]
  | some root => cases hfault : fault? root <;> simp [check, hfault, ← fault?_eq_none_iff]

end ApiRoot

theorem Config.check_ok_iff {c : Config} : c.check = .ok () ↔
    (∀ root, c.apiRoot = some root → ApiRoot.IsWeb root) ∧ c.parallelism ≠ 0 := by
  rw [← ApiRoot.check_ok_iff rootFailure, check]
  cases ApiRoot.check rootFailure c.apiRoot with
  | error f => simp [bind, Except.bind]
  | ok => by_cases hzero : c.parallelism = 0 <;> simp [hzero, bind, Except.bind]

theorem Client.new_ok_iff {project : String} {apiRoot : Option String}
    {token : Except Error String}
    {answer : (url token : String) → Except TransportFault Response} :
    new project apiRoot token answer = .ok ⟨project, apiRoot, token, answer⟩ ↔
      ∀ root, apiRoot = some root → ApiRoot.IsWeb root := by
  rw [← ApiRoot.check_ok_iff rootError, new]
  cases ApiRoot.check rootError apiRoot <;> simp [bind, Except.bind, pure, Except.pure]

theorem Pool.new?_eq {α : Type} (n : Nat) :
    new? n = if n ≤ maxPermits then some (new n) else (none : Option (Pool α)) := by
  have hclamp : clamp n = max 1 n := rfl
  have hmax : 1 ≤ maxPermits := by decide
  have hiff : clamp n ≤ maxPermits ↔ n ≤ maxPermits := by omega
  simp only [new?, hiff]

namespace Plan

variable {o : Options} {e : Environment} {p : Plan} {t : ResourceType}

theorem isKnown_iff {name : String} :
    ResourceType.isKnown name = true ↔ ∃ t : ResourceType, t.name = name := by
  rw [ResourceType.isKnown, ResourceType.ofName?, List.find?_isSome]
  constructor
  · rintro ⟨t, _, ht⟩
    exact ⟨t, eq_of_beq ht⟩
  · rintro ⟨t, rfl⟩
    exact ⟨t, by cases t <;> decide, beq_self_eq_true _⟩

/-- The checks that a run may fail. Options go before what is configured, and that before what the
environment says. -/
inductive Fails (o : Options) (e : Environment) : Prop
  | type {name : String} : name ∈ o.exclude ∨ name ∈ o.only →
      (∀ t : ResourceType, t.name ≠ name) → Fails o e
  | apiRoot {root : String} : o.apiRoot.or (Config.load e).apiRoot = some root →
      ¬ApiRoot.IsWeb root → Fails o e
  | parallelism : o.parallelism.getD (Config.load e).parallelism = 0 → Fails o e
  | noProject : (o.project.or (Config.load e).project).or (Project.default? e) = none → Fails o e
  | project {project : String} :
      (o.project.or (Config.load e).project).or (Project.default? e) = some project →
      Project.isWellFormed project = false → Fails o e

theorem unknownType?_eq_none_iff : unknownType? o = none ↔
    ∀ name, name ∈ o.exclude ∨ name ∈ o.only → ∃ t : ResourceType, t.name = name := by
  rw [unknownType?, List.find?_eq_none]
  simp [isKnown_iff]

theorem Checked.not_fails (h : Checked o e p) : ¬Fails o e := by
  have hconfig := Config.check_ok_iff.mp h.config
  have hproject : (o.project.or (Config.load e).project).or (Project.default? e) =
      some p.project := h.project
  intro hfails
  cases hfails with
  | type hname hunknown =>
    obtain ⟨t, ht⟩ := unknownType?_eq_none_iff.mp h.types _ hname
    exact hunknown t ht
  | apiRoot hroot hweb => exact hweb (hconfig.1 _ hroot)
  | parallelism hzero => exact hconfig.2 hzero
  | noProject hnone => cases hproject.symm.trans hnone
  | project hsome hformed =>
    obtain rfl := Option.some.inj (hproject.symm.trans hsome)
    exact absurd h.wellFormed (by simp [hformed])

theorem checked_of_not_fails (h : ¬Fails o e) : ∃ p, Checked o e p := by
  have htypes : unknownType? o = none := by
    refine unknownType?_eq_none_iff.mpr fun name hname => ?_
    by_contra hnone
    exact h (.type hname fun t ht => hnone ⟨t, ht⟩)
  have hconfig : (merged o (Config.load e)).check = .ok () := by
    refine Config.check_ok_iff.mpr ⟨fun root hroot => ?_, fun hzero => h (.parallelism hzero)⟩
    by_contra hweb
    exact h (.apiRoot hroot hweb)
  cases hproject : (merged o (Config.load e)).effectiveProject? e with
  | none => exact absurd (.noProject hproject) h
  | some project =>
    have hformed : Project.isWellFormed project = true := by
      by_contra hformed
      exact h (.project hproject (Bool.eq_false_iff.mpr hformed))
    let p : Plan :=
      { config := { merged o (Config.load e) with project := some project }
        project
        types := selected o.only (merged o (Config.load e))
        stores := o.saveConfig
        format := o.output.getD .json }
    exact ⟨p, htypes, hconfig, hproject, hformed, rfl⟩

theorem of_eq_error_of_fails (h : Fails o e) : ∃ f, Plan.of o e = .error f := by
  cases hplan : Plan.of o e with
  | error f => exact ⟨f, rfl⟩
  | ok p => exact absurd h (of_eq_ok_iff.mp hplan).not_fails

/-- A type takes part in a scan: nothing excludes it, and it is asked for where only some are. -/
def Selects (o : Options) (c : Config) (t : ResourceType) : Prop :=
  t.name ∉ c.exclude ∧ t.name ∉ o.exclude ∧ (o.only = [] ∨ t.name ∈ o.only)

theorem Checked.mem_types_iff (h : Checked o e p) :
    t ∈ p.types ↔ Selects o (Config.load e) t := by
  have hall : t ∈ ResourceType.all := by cases t <;> decide
  have hexclude : t.name ∈ (merged o (Config.load e)).exclude ↔
      t.name ∈ o.exclude ∨ t.name ∈ (Config.load e).exclude := Config.mem_insertNames
  rw [h.plan]
  simp only [selected, List.mem_filter, hall, true_and, Config.isSelected, Bool.and_eq_true,
    Bool.not_eq_true', List.contains_eq_mem, decide_eq_false_iff_not, Bool.or_eq_true,
    List.isEmpty_iff, decide_eq_true_eq, hexclude, not_or, Selects]
  tauto

end Plan

namespace Run

variable {w w' : World} {o : Options} {p : Plan} {arguments : List String} {fuel : Nat}

/-- Nothing is written to the configuration, sent or read. -/
structure Idle (e : Environment) (r : Outcome) : Prop where
  stored : r.stored = none
  log : ∀ file, Config.file? e = some file → r.log ≠ some file
  calls : r.calls = []
  reads : r.reads = []

theorem logFile_ne {e : Environment} {file : Path} (hfile : Config.file? e = some file) :
    (logFile? e).getD ⟨.text "gcpinv.log", []⟩ ≠ file := by
  obtain ⟨dir, hdir, rfl⟩ := Option.map_eq_some_iff.mp hfile
  rw [logFile?, hdir, Option.map_some, Option.getD_some]
  intro hsame
  have hnames := congrArg (·.below.getLast?) hsame
  simp [Path.child] at hnames

theorem openLog_idle (w : World) (o : Options) : Idle w.environment (openLog w o) := by
  unfold openLog
  split
  · exact ⟨rfl, fun _ _ => by simp, rfl, rfl⟩
  · simp only
    split
    · refine ⟨rfl, fun file hfile hlog => ?_, rfl, rfl⟩
      exact logFile_ne hfile (Option.some.inj hlog)
    all_goals exact ⟨rfl, fun _ _ => by simp, rfl, rfl⟩

theorem openLog_succeeds (w : World) (o : Options) :
    (openLog w o).exitCode = 0 ∧ (openLog w o).output = "" := by
  unfold openLog
  split
  · exact ⟨rfl, rfl⟩
  · simp only
    split <;> exact ⟨rfl, rfl⟩

theorem Idle.failed {e : Environment} {r : Outcome} (h : Idle e r) (f : Failure) :
    Idle e (failed f r) := ⟨h.stored, h.log, h.calls, h.reads⟩

/-- A failed check ends a run, whatever the credentials and the services are. -/
theorem run_eq_failed (hread : Options.read arguments = .ok (.run o))
    (hlist : o.listTypes = false) {f : Failure} (hplan : Plan.of o w.environment = .error f)
    (henvironment : w'.environment = w.environment) (hobstacle : w'.obstacle? = w.obstacle?)
    (fuel : Nat) : run w' arguments fuel = failed f (openLog w o) := by
  have hlog : openLog w' o = openLog w o := by simp only [openLog, henvironment, hobstacle]
  simp only [run, hread, withOptions, hlist, henvironment, hplan, hlog]
  rfl

def clientOf (w : World) (p : Plan) (token : Except Error String) : Client :=
  ⟨p.project, p.config.apiRoot, token, w.answer⟩

theorem client_of_checked (h : p.Checked o w.environment) {token : Except Error String}
    (hcredentials : w.credentials = .ok token) : client w p = .ok (clientOf w p token) := by
  have hroots : ∀ root, p.config.apiRoot = some root → ApiRoot.IsWeb root := by
    rw [h.plan]
    exact (Config.check_ok_iff.mp h.config).1
  have hnew : Client.new p.project p.config.apiRoot token w.answer =
      .ok (clientOf w p token) := Client.new_ok_iff.mpr hroots
  simp only [client, hcredentials, Except.bind, hnew]

/-- Nothing keeps the configuration from being written. -/
def Unobstructed (w : World) : Prop :=
  ∀ file, Config.file? w.environment = some file → w.obstacle? file = none

def storedBy (w : World) (o : Options) (p : Plan) : Option (Path × String) :=
  if o.saveConfig then (Config.file? w.environment).map fun file => (file, p.config.text)
  else none

theorem store_of_unobstructed (h : p.Checked o w.environment) (hfree : Unobstructed w) :
    store w p = .ok (storedBy w o p) := by
  have hstores : p.stores = o.saveConfig := by rw [h.plan]
  cases hsave : o.saveConfig with
  | false => simp [store, storedBy, hstores, hsave]
  | true =>
    cases hfile : Config.file? w.environment with
    | none => simp [store, storedBy, hstores, hsave, hfile]
    | some file => simp [store, storedBy, hstores, hsave, hfile, hfree file hfile]

def inventoryOf (w : World) (p : Plan) (u : Survey) (results : List (List Resource)) : Inventory :=
  ⟨w.scanId, p.project, w.now, Inventory.sorted results.flatten, u.scan.alerts⟩

/-- What a scan of a plan's types makes of a run; `errors` is what has been said before. -/
structure Reports (w : World) (p : Plan) (errors : String) (u : Survey) (r : Outcome) : Prop where
  types : u.scan.suppliers.map (·.type) = p.types
  calls : r.calls = u.scan.calls
  reads : r.reads = u.scan.reads
  alerts : ∀ type, Dict.find? type u.scan.alerts ≠ none → ∃ t ∈ p.types, t.name = type
  ends :
    (∃ e, (Scan.results? u.scan.suppliers).getD (.error .cancelled) = .error e ∧
      r.exitCode = 1 ∧ r.output = "" ∧ r.errors = errors ++ (scanFailure e).report) ∨
    (∃ results, Scan.results? u.scan.suppliers = some (.ok results) ∧
      (∀ q ∈ u.scan.suppliers, ∃ found, q.progress = .finished (.ok found)) ∧
      (∀ x ∈ (inventoryOf w p u results).resources, x.type ∈ p.types) ∧
      r.exitCode = 0 ∧ r.output = Report.render (inventoryOf w p u results) p.format ++ "\n" ∧
      r.errors = errors ++ warningLines u.scan.alerts)

theorem reports_of_run {c : Client} {limit fuel : Nat} {u : Survey} {r : Outcome}
    (hu : Survey.Executed c.source p.project p.types limit Alerts.empty u)
    (hrun : Scan.run c.source fuel (Scan.start p.project p.types (Pool.new limit) Alerts.empty) =
      Scan.conclude ((Scan.results? u.scan.suppliers).getD (.error .cancelled)) u.scan)
    (hexit : r.exitCode = 0) (houtput : r.output = "") :
    Reports w p r.errors u (scan w p c (Pool.new limit) fuel r) := by
  have htypes := hu.sound.tallies.listed
  cases hres : (Scan.results? u.scan.suppliers).getD (.error .cancelled) with
  | error e =>
    rw [hres] at hrun
    simp only [scan, hrun, Scan.conclude]
    exact ⟨htypes, rfl, rfl, fun _ => hu.alerted, .inl ⟨e, hres, rfl, houtput, rfl⟩⟩
  | ok results =>
    have hresults : Scan.results? u.scan.suppliers = some (.ok results) := by
      cases hsome : Scan.results? u.scan.suppliers with
      | none => simp [hsome] at hres
      | some outcome => simpa [hsome] using hres
    obtain ⟨hfinished, hresources⟩ := hu.found hresults
    rw [hres] at hrun
    simp only [scan, hrun, Scan.conclude]
    exact ⟨htypes, rfl, rfl, fun _ => hu.alerted,
      .inr ⟨results, hresults, hfinished, hresources, hexit, rfl, rfl⟩⟩

theorem scan_reports (w : World) (p : Plan) (c : Client) (limit fuel : Nat) {r : Outcome}
    (hexit : r.exitCode = 0) (houtput : r.output = "") :
    ∃ u, Survey.Executed c.source p.project p.types limit Alerts.empty u ∧
      Reports w p r.errors u (scan w p c (Pool.new limit) fuel r) := by
  obtain ⟨u, hu, hrun⟩ :=
    Survey.executed_run c.source fuel p.project p.types limit Alerts.empty
  exact ⟨u, hu, reports_of_run hu hrun hexit houtput⟩

/-- With enough fuel for services whose listings end, what a run reports is what its suppliers have
come to. -/
theorem scan_ends (w : World) (p : Plan) (c : Client) (limit : Nat)
    (hends : ∀ t ∈ p.types, c.source.Terminates p.project t) :
    ∃ n, ∀ fuel, n < fuel → ∀ r : Outcome, r.exitCode = 0 → r.output = "" →
      ∃ u outcome, Survey.Executed c.source p.project p.types limit Alerts.empty u ∧
        Scan.results? u.scan.suppliers = some outcome ∧
        Reports w p r.errors u (scan w p c (Pool.new limit) fuel r) := by
  obtain ⟨n, hn⟩ := Survey.run_ends limit Alerts.empty hends
  refine ⟨n, fun fuel hfuel r hexit houtput => ?_⟩
  obtain ⟨u, outcome, hu, hres, hrun⟩ := hn fuel hfuel
  have hthere : (Scan.results? u.scan.suppliers).getD (.error .cancelled) = outcome := by
    rw [hres]
    rfl
  rw [← hthere] at hrun
  exact ⟨u, outcome, hu, hres, reports_of_run hu hrun hexit houtput⟩

/-- What a run does whose checks have all passed. -/
structure Follows (w : World) (o : Options) (p : Plan) (r : Outcome) : Prop where
  registered : p.types.Sublist ResourceType.all
  selected : ∀ t, t ∈ p.types ↔ Plan.Selects o (Config.load w.environment) t
  stored : Unobstructed w → r.stored = storedBy w o p
  scans : Unobstructed w → ∀ token, w.credentials = .ok token →
    p.config.parallelism.toNat ≤ Pool.maxPermits →
      ∃ u, Survey.Executed (clientOf w p token).source p.project p.types
          p.config.parallelism.toNat Alerts.empty u ∧ Reports w p (openLog w o).errors u r
  breaks : Unobstructed w → ∀ token, w.credentials = .ok token →
    Pool.maxPermits < p.config.parallelism.toNat →
      r.exitCode = brokenCode ∧ r.output = "" ∧ r.calls = [] ∧ r.reads = []

theorem execute_follows (h : p.Checked o w.environment) (fuel : Nat) :
    Follows w o p (execute w p fuel (openLog w o)) where
  registered := by
    rw [h.plan]
    exact List.filter_sublist
  selected t := h.mem_types_iff
  stored hfree := execute_stored (store_of_unobstructed h hfree) fuel _
  scans hfree token hcredentials hle := by
    let r : Outcome := { openLog w o with stored := storedBy w o p }
    have hscan : execute w p fuel (openLog w o) =
        scan w p (clientOf w p token) (Pool.new p.config.parallelism.toNat) fuel r := by
      simp only [execute, store_of_unobstructed h hfree, client_of_checked h hcredentials,
        Pool.new?_eq, if_pos hle, r]
    have hopened := openLog_succeeds w o
    rw [hscan]
    exact scan_reports w p _ _ fuel (r := r) hopened.1 hopened.2
  breaks hfree token hcredentials hlt := by
    have hbroken : execute w p fuel (openLog w o) =
        { openLog w o with stored := storedBy w o p, exitCode := brokenCode } := by
      simp only [execute, store_of_unobstructed h hfree, client_of_checked h hcredentials,
        Pool.new?_eq, if_neg (Nat.not_le.mpr hlt)]
    have hidle := openLog_idle w o
    rw [hbroken]
    exact ⟨rfl, (openLog_succeeds w o).2, hidle.calls, hidle.reads⟩

theorem follows_of_run (hread : Options.read arguments = .ok (.run o))
    (hlist : o.listTypes = false) (hplan : Plan.of o w.environment = .ok p) (fuel : Nat) :
    Follows w o p (run w arguments fuel) := by
  rw [run_eq_execute hread hlist hplan]
  exact execute_follows (Plan.of_eq_ok_iff.mp hplan) fuel

theorem idle_of_not_run (h : ∀ o, Options.read arguments ≠ .ok (.run o)) (fuel : Nat) :
    Idle w.environment (run w arguments fuel) := by
  cases hread : Options.read arguments with
  | error fault =>
    simp only [run, hread]
    exact ⟨rfl, fun _ _ => by simp, rfl, rfl⟩
  | ok demand =>
    cases demand with
    | run o => exact absurd hread (h o)
    | help | version =>
      simp only [run, hread]
      exact ⟨rfl, fun _ _ => by simp, rfl, rfl⟩

/-- A run whose options or environment fail a check ends in an error, having written nothing to the
configuration and asked for nothing. Any other writes it if and only if it is told to, and scans
the types that are selected and no others, if the pool can have as many permits as that takes. -/
theorem run_respects_checks (w : World) (arguments : List String) (fuel : Nat) :
    let r := run w arguments fuel
    ((∀ o, Options.read arguments ≠ .ok (.run o)) → Idle w.environment r) ∧
    ∀ o, Options.read arguments = .ok (.run o) → o.listTypes = false →
      (Plan.Fails o w.environment → r.exitCode = 1 ∧ r.output = "" ∧ Idle w.environment r ∧
        ∀ w' : World, w'.environment = w.environment → w'.obstacle? = w.obstacle? →
          ∀ fuel', run w' arguments fuel' = r) ∧
      (¬Plan.Fails o w.environment → ∃ p, p.Checked o w.environment ∧ Follows w o p r) := by
  intro r
  refine ⟨fun hnone => idle_of_not_run hnone fuel, fun o hread hlist => ⟨fun hfails => ?_,
    fun hpasses => ?_⟩⟩
  · obtain ⟨f, hplan⟩ := Plan.of_eq_error_of_fails hfails
    have hrun : r = failed f (openLog w o) := run_eq_failed hread hlist hplan rfl rfl fuel
    rw [hrun]
    refine ⟨rfl, (openLog_succeeds w o).2, (openLog_idle w o).failed f, fun w' he hobs fuel' => ?_⟩
    exact run_eq_failed hread hlist hplan he hobs fuel'
  · obtain ⟨p, hchecked⟩ := Plan.checked_of_not_fails hpasses
    exact ⟨p, hchecked, follows_of_run hread hlist (Plan.of_eq_ok_iff.mpr hchecked) fuel⟩

/-- Nothing is configured, and every request is answered with an empty object. -/
def openWorld : World where
  environment := {
    setting? name := if name = "HOME" then some (.text "/home/u") else none
    accountHome := none
    octets? _ := none }
  obstacle? _ := none
  credentials := .ok (.ok "token")
  answer _ _ := .ok ⟨200, "\x7b\x7d"⟩
  scanId := .nil
  now := ⟨0, 0⟩

def argumentsFor (type : String) (more : List String) : List String :=
  ["--project", "test-project", "--only", type] ++ more

def networksOnly (parallelism : Option UInt64) (saveConfig : Bool) : Options :=
  { project := some "test-project", parallelism, only := ["google_compute_network"], saveConfig }

def networkPlan (parallelism : UInt64) (stores : Bool) : Plan where
  config := { project := some "test-project", parallelism }
  project := "test-project"
  types := [.computeNetwork]
  stores := stores
  format := .json

theorem openWorld_respects :
    let refused := run openWorld (argumentsFor "google_compute_vm" ["--save-config"]) 9
    let scanned := run openWorld (argumentsFor "google_compute_network" ["--save-config"]) 9
    (refused.exitCode = 1 ∧ Idle openWorld.environment refused) ∧
      scanned.exitCode = 0 ∧ scanned.stored.isSome = true ∧
      ∃ u, Survey.Executed (clientOf openWorld (networkPlan 10 true) (.ok "token")).source
          "test-project" [.computeNetwork] 10 [] u ∧
        Reports openWorld (networkPlan 10 true) "" u scanned := by
  intro refused scanned
  have hunknown : Plan.Fails { networksOnly none true with only := ["google_compute_vm"] }
      openWorld.environment := by
    refine .type (.inr List.mem_cons_self) fun t => ?_
    cases t <;> decide
  have hread : Options.read (argumentsFor "google_compute_network" ["--save-config"]) =
      .ok (.run (networksOnly none true)) := rfl
  have hplan : Plan.of (networksOnly none true) openWorld.environment =
      .ok (networkPlan 10 true) := rfl
  obtain ⟨_, hrefused⟩ :=
    run_respects_checks openWorld (argumentsFor "google_compute_vm" ["--save-config"]) 9
  obtain ⟨_, hscanned⟩ :=
    run_respects_checks openWorld (argumentsFor "google_compute_network" ["--save-config"]) 9
  obtain ⟨hexit, _, hidle, _⟩ := (hrefused _ rfl rfl).1 hunknown
  obtain ⟨p, hchecked, hfollows⟩ :=
    (hscanned _ hread rfl).2 (Plan.of_eq_ok_iff.mp hplan).not_fails
  obtain rfl : networkPlan 10 true = p :=
    Except.ok.inj (hplan.symm.trans (Plan.of_eq_ok_iff.mpr hchecked))
  have hstored := hfollows.stored fun _ _ => rfl
  refine ⟨⟨hexit, hidle⟩, rfl, by rw [hstored]; rfl, ?_⟩
  exact hfollows.scans (fun _ _ => rfl) (.ok "token") rfl (by decide)

/-- A run that has passed its checks scans nothing where it is to have more permits than a pool can
have. -/
theorem crowdedRun_breaks :
    let r := run openWorld
      (argumentsFor "google_compute_network" ["--parallelism", "2305843009213693952"]) 9
    let o := networksOnly (some 2305843009213693952) false
    Options.read (argumentsFor "google_compute_network" ["--parallelism", "2305843009213693952"]) =
        .ok (.run o) ∧
      o.listTypes = false ∧ ¬Plan.Fails o openWorld.environment ∧ Unobstructed openWorld ∧
      openWorld.credentials = .ok (.ok "token") ∧
      r.exitCode = brokenCode ∧ r.calls = [] ∧ ∀ p errors u, ¬Reports openWorld p errors u r := by
  intro r o
  have hread : Options.read
      (argumentsFor "google_compute_network" ["--parallelism", "2305843009213693952"]) =
        .ok (.run o) := rfl
  have hplan : Plan.of o openWorld.environment = .ok (networkPlan 2305843009213693952 false) := rfl
  have hchecked := Plan.of_eq_ok_iff.mp hplan
  have hbreaks := (follows_of_run hread rfl hplan 9).breaks (fun _ _ => rfl) (.ok "token") rfl
    (by decide)
  refine ⟨hread, rfl, hchecked.not_fails, fun _ _ => rfl, rfl, hbreaks.1, hbreaks.2.2.1, ?_⟩
  intro p errors u hreports
  rcases hreports.ends with ⟨_, _, hexit, _⟩ | ⟨_, _, _, _, hexit, _⟩
  · exact absurd (hbreaks.1.symm.trans hexit) (by decide)
  · exact absurd (hbreaks.1.symm.trans hexit) (by decide)

end Run

end CloudInventory
