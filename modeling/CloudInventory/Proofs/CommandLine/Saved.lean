import CloudInventory.Proofs.CommandLine.Checks

/-! A run that stores its configuration stores all that the next run goes by. The project that was
found is part of it, so the next run looks for none; and what has passed the checks once passes
them again. -/

namespace CloudInventory

/-- The file of an environment's configuration holds a text. -/
def Environment.Holds (e : Environment) (text : String) : Prop :=
  (Config.file? e).bind e.octets? = some (Text.octets text)

namespace Run

variable {w : World} {o : Options} {p : Plan} {file : Path} {arguments : List String}

theorem run_stored (hread : Options.read arguments = .ok (.run o)) (hsave : o.saveConfig = true)
    (hlist : o.listTypes = false) (hplan : Plan.of o w.environment = .ok p)
    (hfile : Config.file? w.environment = some file) (hfree : w.obstacle? file = none)
    (fuel : Nat) : (run w arguments fuel).stored = some (file, p.config.text) := by
  have hstores : p.stores = true := by
    rw [(Plan.of_eq_ok_iff.mp hplan).plan]
    exact hsave
  have hstore : store w p = .ok (some (file, p.config.text)) := by
    simp only [store, hstores, hfile, hfree]
  rw [run_eq_execute hread hlist hplan]
  exact execute_stored hstore fuel _

/-- What a run stores is read back as what it went by. A run without options over it passes the
checks and goes by the same, whatever else its environment says, and storing that again stores
the same text. Both scan what they go by. -/
theorem saved_config_reused (w : World) (arguments : List String) (fuel : Nat) {o : Options}
    {p : Plan} {file : Path} (hread : Options.read arguments = .ok (.run o))
    (hsave : o.saveConfig = true) (hlist : o.listTypes = false)
    (hplan : Plan.of o w.environment = .ok p)
    (hfile : Config.file? w.environment = some file) (hfree : w.obstacle? file = none) :
    (run w arguments fuel = execute w p fuel (openLog w o) ∧
      p.Lays o (Config.load w.environment) ∧ Follows w o p (run w arguments fuel)) ∧
    (run w arguments fuel).stored = some (file, p.config.text) ∧
    Config.ofOctets (some (Text.octets p.config.text)) = p.config ∧
    ∀ w' : World, w'.environment.Holds p.config.text →
      (∃ p', Plan.of {} w'.environment = .ok p' ∧ p'.config = p.config ∧ p'.project = p.project ∧
        ∀ fuel', run w' [] fuel' = execute w' p' fuel' (openLog w' {}) ∧
          Follows w' {} p' (run w' [] fuel')) ∧
      ∀ fuel' file', Config.file? w'.environment = some file' → w'.obstacle? file' = none →
        (run w' ["--save-config"] fuel').stored = some (file', p.config.text) := by
  have hchecked := Plan.of_eq_ok_iff.mp hplan
  have hback := Config.ofOctets_text hchecked.inOrder
  refine ⟨⟨run_eq_execute hread hlist hplan fuel, hchecked.lays,
    follows_of_run hread hlist hplan fuel⟩, run_stored hread hsave hlist hplan hfile hfree fuel,
    hback, fun w' hholds => ?_⟩
  have hload : Config.load w'.environment = p.config := by
    rw [Config.load, show (Config.file? w'.environment).bind w'.environment.octets? = _ from hholds]
    exact hback
  have hagain := Plan.of_eq_ok_iff.mpr (hchecked.again hload false)
  refine ⟨⟨_, hagain, rfl, rfl, fun fuel' =>
    ⟨run_eq_execute rfl rfl hagain fuel', follows_of_run rfl rfl hagain fuel'⟩⟩,
    fun fuel' file' hfile' hfree' => ?_⟩
  have hsaves : Options.read ["--save-config"] = .ok (.run { saveConfig := true }) := by cbv
  exact run_stored hsaves rfl rfl (Plan.of_eq_ok_iff.mpr (hchecked.again hload true)) hfile' hfree'
    fuel'

def configFile : Path := ⟨.text "/home/u", [".config", "gcpinv", "config.json"]⟩

/-- The file of the configuration holds a text, and a variable names a project. -/
def worldWith (text project : String) : World where
  environment := {
    setting? name :=
      if name = "HOME" then some (.text "/home/u")
      else if name = "GOOGLE_CLOUD_PROJECT" then some (.text project)
      else none
    accountHome := none
    octets? file := if file = configFile then some (Text.octets text) else none }
  obstacle? _ := none
  credentials := .error (.auth "expired")
  answer _ _ := .error ⟨none, "offline"⟩
  scanId := .nil
  now := ⟨0, 0⟩

def before : Config := { parallelism := 3, exclude := ["\u00e9 \"\n"] }

/-- A project is found, and a type is excluded. -/
def saved : Config :=
  { project := some "first-project", parallelism := 3
    exclude := ["google_compute_disk", "\u00e9 \"\n"] }

theorem saved_reused :
    let w := worldWith before.text "first-project"
    let w' := worldWith saved.text "other-project"
    (run w ["--save-config", "--exclude", "google_compute_disk"] 0).stored =
        some (configFile, saved.text) ∧
      Config.ofOctets (some (Text.octets saved.text)) = saved ∧
      (∃ p', Plan.of {} w'.environment = .ok p' ∧ p'.config = saved ∧
        p'.project = "first-project") ∧
      (run w' ["--save-config"] 0).stored = some (configFile, saved.text) := by
  intro w w'
  have hread : Options.read ["--save-config", "--exclude", "google_compute_disk"] =
      .ok (.run { saveConfig := true, exclude := ["google_compute_disk"] }) := by cbv
  have hfile : ∀ text project, Config.file? (worldWith text project).environment =
      some configFile := fun _ _ => rfl
  have hload : Config.load w.environment = before := by
    rw [Config.load, hfile]
    exact Config.ofOctets_text (List.pairwise_singleton _ _)
  have hplan : Plan.of { saveConfig := true, exclude := ["google_compute_disk"] } w.environment =
      .ok ⟨saved, "first-project", Plan.selected [] saved, true, .json⟩ := by
    refine Plan.of_eq_ok_iff.mpr ⟨by decide, ?_, ?_, by decide, ?_⟩
    · rw [hload]
      rfl
    · rw [hload]
      decide
    · rw [hload]
      cbv
  obtain ⟨_, hstored, hback, hnext⟩ := saved_config_reused w
    ["--save-config", "--exclude", "google_compute_disk"] 0 hread rfl rfl hplan (hfile _ _) rfl
  have hholds : w'.environment.Holds saved.text := by
    simp only [Environment.Holds, w', hfile]
    rfl
  obtain ⟨⟨p', hplan', hconfig, hproject, _⟩, hsaves⟩ := hnext w' hholds
  exact ⟨hstored, hback, ⟨p', hplan', hconfig, hproject⟩, hsaves 0 configFile (hfile _ _) rfl⟩

end Run

end CloudInventory
