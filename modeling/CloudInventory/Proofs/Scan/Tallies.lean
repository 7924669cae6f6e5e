import CloudInventory.Proofs.Scan.Changes

/-! The log of a scan agrees with the scan: with the calls and reads it counts, with its alerts,
and with its pool, each of whose runners belongs to one supplier. -/

namespace CloudInventory.Survey

variable {project : String} {types : List ResourceType} {limit : Nat} {alerts : Alerts}
  {u : Survey} {i : Nat}

structure Tallies (project : String) (types : List ResourceType) (limit : Nat) (alerts : Alerts)
    (u : Survey) : Prop where
  pool : Pool.Sound limit u.log.pool u.scan.pool
  project : u.scan.project = project
  listed : u.scan.suppliers.map (·.type) = types
  alerts : u.scan.alerts = sendAll u.log.sent alerts
  senders : ∀ x ∈ u.log.sent, (types[x.1]?).map ResourceType.name = some x.2.1
  calls : u.scan.calls = u.log.heard.map (·.2.1)
  reads : u.scan.reads = u.log.begun.map (·.args)
  runners : u.log.opened.length = u.scan.pool.runners.length
  nodup : u.log.opened.Nodup
  begun : ∀ b ∈ u.log.begun, u.log.opened[b.runner]? = some b.supplier
  accepted : u.log.pool.accepted = u.log.begun.map Read.task

namespace Tallies

theorem start (project : String) (types : List ResourceType) (limit : Nat) (alerts : Alerts) :
    Tallies project types limit alerts (start project types limit alerts) where
  pool := .new limit
  project := rfl
  listed := by simp [Survey.start, Scan.start, Supplier.start, Function.comp_def]
  alerts := rfl
  senders := by simp [Survey.start, Scan.Log.empty]
  calls := rfl
  reads := rfl
  runners := rfl
  nodup := .nil
  begun := by simp [Survey.start, Scan.Log.empty]
  accepted := rfl

theorem type_of_supplier (h : Tallies project types limit alerts u) {p : Supplier}
    (hi : u.scan.suppliers[i]? = some p) : types[i]? = some p.type := by
  rw [← h.listed, List.getElem?_map, hi]
  rfl

theorem setProgress (h : Tallies project types limit alerts u) (i : Nat) (progress : Progress) :
    Tallies project types limit alerts (u.setProgress i progress) :=
  { h with
    listed := by
      have hmap := map_modify_of_eq (f := fun p : Supplier => { p with progress })
        (g := Supplier.type) (fun _ => rfl) u.scan.suppliers i
      exact hmap.trans h.listed }

theorem hear (h : Tallies project types limit alerts u) (i : Nat) (x : Exchange) :
    Tallies project types limit alerts (u.hear i x) :=
  { h with calls := by simp [Survey.hear, Scan.Log.hear, h.calls] }

theorem send (h : Tallies project types limit alerts u) {p : Supplier}
    (hi : u.scan.suppliers[i]? = some p) (alert? : Option Alert) :
    Tallies project types limit alerts (u.send i p.type.name alert?) :=
  { h with
    alerts := by
      simp only [Survey.send, Scan.Log.send, sendAll, List.foldl_append]
      rw [h.alerts]
      rfl
    senders := fun x hx => by
      simp only [log_send, Scan.Log.send, List.mem_append, List.mem_map] at hx
      rcases hx with hx | ⟨alert, _, rfl⟩
      · exact h.senders x hx
      · simp [← h.listed, hi] }

theorem act (h : Tallies project types limit alerts u) {m : Pool.Act State}
    (hm : u.scan.pool.Allows m) (hopen : m ≠ .addRunner) (hacc : ∀ i job, m ≠ .accept i job) :
    Tallies project types limit alerts (u.act m) :=
  { h with
    pool := h.pool.act hm
    runners := h.runners.trans (Pool.length_runners_act hopen).symm
    accepted := (Pool.Log.accepted_note hacc _ _).trans h.accepted }

theorem openRunner (h : Tallies project types limit alerts u) (hi : i ∉ u.log.opened) :
    Tallies project types limit alerts (u.openRunner i) :=
  { h with
    pool := h.pool.addRunner
    runners := by
      simp [Survey.openRunner, Scan.Log.openRunner, Scan.withPool, Pool.addRunner, h.runners]
    nodup := List.nodup_append.mpr ⟨h.nodup, by simp, by
      intro a ha b hb
      obtain rfl := List.mem_singleton.mp hb
      exact fun he => hi (he ▸ ha)⟩
    begun := fun b hb => by
      have hold := h.begun b hb
      simp only [log_openRunner, Scan.Log.openRunner]
      rwa [List.getElem?_append_left (List.getElem?_eq_some_iff.mp hold).1] }

theorem begin (h : Tallies project types limit alerts u) {b : Read}
    (hb : u.log.opened[b.runner]? = some b.supplier)
    (hm : u.scan.pool.Allows (.accept b.runner ⟨b.ending, .none⟩)) :
    Tallies project types limit alerts (u.begin b) :=
  { h with
    pool := h.pool.act hm
    reads := by simp [Survey.begin, Scan.Log.begin, Scan.Log.note, h.reads]
    runners := h.runners.trans (by
      simp [Survey.begin, Scan.withPool, Pool.accept, Pool.modifyRunner])
    begun := fun c hc => by
      simp only [Survey.begin, Scan.Log.begin, Scan.Log.note, List.mem_append,
        List.mem_singleton] at hc
      rcases hc with hc | rfl
      · exact h.begun c hc
      · exact hb
    accepted := by
      simp [Survey.begin, Scan.Log.begin, Scan.Log.note, Pool.Log.note, Pool.Log.accept,
        h.accepted, Read.task] }

end Tallies

end CloudInventory.Survey
