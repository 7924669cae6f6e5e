import CloudInventory.CommandLine.Run
import CloudInventory.Proofs.Config

/-! The plan of a run: what it is made of and what has been checked for it. A run whose options
and environment pass the checks executes its plan. -/

namespace CloudInventory

namespace Plan

variable {o : Options} {e : Environment} {p : Plan}

/-- What a plan is made of, and what has been checked for it. -/
structure Checked (o : Options) (e : Environment) (p : Plan) : Prop where
  types : unknownType? o = none
  config : (merged o (Config.load e)).check = .ok ()
  project : (merged o (Config.load e)).effectiveProject? e = some p.project
  wellFormed : Project.isWellFormed p.project = true
  plan : p = {
    config := { merged o (Config.load e) with project := some p.project }
    project := p.project
    types := selected o.only (merged o (Config.load e))
    stores := o.saveConfig
    format := o.output.getD .json }

theorem of_eq_ok_iff : Plan.of o e = .ok p ↔ Checked o e p := by
  constructor
  · intro h
    cases htypes : unknownType? o with
    | some name => simp [Plan.of, checkTypes, htypes, bind, Except.bind] at h
    | none =>
      cases hcheck : (merged o (Config.load e)).check with
      | error f => simp [Plan.of, checkTypes, htypes, hcheck, bind, Except.bind] at h
      | ok =>
        cases hproject : (merged o (Config.load e)).effectiveProject? e with
        | none =>
          simp [Plan.of, checkTypes, htypes, hcheck, checkedProject, hproject, bind,
            Except.bind] at h
        | some project =>
          cases hformed : Project.isWellFormed project with
          | false =>
            simp [Plan.of, checkTypes, htypes, hcheck, checkedProject, hproject, hformed, bind,
              Except.bind] at h
          | true =>
            simp only [Plan.of, checkTypes, htypes, hcheck, checkedProject, hproject, hformed, bind,
              Except.bind, if_true, pure, Except.pure] at h
            obtain rfl := Except.ok.inj h
            exact ⟨htypes, hcheck, hproject, hformed, rfl⟩
  · rintro ⟨htypes, hcheck, hproject, hformed, hplan⟩
    rw [hplan]
    simp only [Plan.of, checkTypes, htypes, hcheck, checkedProject, hproject, hformed, bind,
      Except.bind, if_true, pure, Except.pure]
    rfl

/-- What a plan goes by: the options, and the configuration that they are laid over. -/
structure Lays (o : Options) (c : Config) (p : Plan) : Prop where
  project : p.config.project = some p.project
  given : ∀ project, o.project.or c.project = some project → p.project = project
  parallelism : p.config.parallelism = o.parallelism.getD c.parallelism
  exclude : ∀ name, name ∈ p.config.exclude ↔ name ∈ o.exclude ∨ name ∈ c.exclude
  apiRoot : p.config.apiRoot = o.apiRoot.or c.apiRoot

namespace Checked

theorem lays (h : Checked o e p) : Lays o (Config.load e) p where
  project := by rw [h.plan]
  given project hgiven := by
    have hfound := h.project
    have hmerged : (merged o (Config.load e)).project = some project := hgiven
    rw [Config.effectiveProject?, hmerged] at hfound
    exact (Option.some.inj hfound).symm
  parallelism := by
    rw [h.plan]
    rfl
  exclude name := by
    rw [h.plan]
    exact Config.mem_insertNames
  apiRoot := by
    rw [h.plan]
    rfl

theorem inOrder (h : Checked o e p) : Config.InOrder p.config.exclude := by
  rw [h.plan]
  exact (Config.ofOctets_inOrder _).insertNames o.exclude

theorem merged_none (stores : Bool) (c : Config) : merged { saveConfig := stores } c = c := rfl

/-- Where the configuration is at hand that a plan was checked with, it is checked again. -/
theorem again (h : Checked o e p) {e' : Environment} (hload : Config.load e' = p.config)
    (stores : Bool) : Checked { saveConfig := stores } e'
      { p with types := selected [] p.config, stores, format := .json } where
  types := rfl
  config := by
    rw [merged_none, hload, h.plan]
    exact h.config
  project := by
    rw [merged_none, hload, h.plan]
    rfl
  wellFormed := h.wellFormed
  plan := by
    rw [merged_none, hload]
    congr 1
    rw [h.plan]

end Checked

end Plan

namespace Run

variable {w : World} {o : Options} {p : Plan} {arguments : List String}

theorem scan_stored (w : World) (p : Plan) (c : Client) (pool : Pool State) (fuel : Nat)
    (r : Outcome) : (scan w p c pool fuel r).stored = r.stored := by
  unfold scan
  simp only
  split <;> rfl

theorem execute_stored {stored : Option (Path × String)} (h : store w p = .ok stored) (fuel : Nat)
    (r : Outcome) : (execute w p fuel r).stored = stored := by
  simp only [execute, h]
  split
  · rfl
  · split
    · rfl
    · exact scan_stored ..

theorem run_eq_execute (hread : Options.read arguments = .ok (.run o))
    (hlist : o.listTypes = false) (hplan : Plan.of o w.environment = .ok p) (fuel : Nat) :
    run w arguments fuel = execute w p fuel (openLog w o) := by
  simp only [run, hread, withOptions, hlist, hplan]
  rfl

end Run

end CloudInventory
