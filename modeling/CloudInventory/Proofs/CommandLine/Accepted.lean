import CloudInventory.Proofs.CommandLine.Checks

/-! What an accepted configuration is used for. A client takes exactly the addresses that the check
lets pass, and a pool takes the number of reads as it stands, up to the most permits of a pool; the
check knows nothing of that bound. -/

namespace CloudInventory

namespace Pool

variable {α : Type} {n : Nat}

theorem clamp_eq_self_iff : clamp n = n ↔ n ≠ 0 := by
  have hclamp : clamp n = max 1 n := rfl
  omega

/-- A pool of the size that was asked for. -/
def Built (n : Nat) (p : Pool α) : Prop := new? n = some p ∧ p.limit = n ∧ p.free = n

theorem exists_built_iff (h : n ≠ 0) : (∃ p : Pool α, Built n p) ↔ n ≤ maxPermits := by
  have hclamp := clamp_eq_self_iff.mpr h
  simp only [Built, new?_eq, Option.ite_none_right_eq_some, Option.some.injEq]
  constructor
  · rintro ⟨p, ⟨hle, _⟩, _⟩
    exact hle
  · exact fun hle => ⟨_, ⟨hle, rfl⟩, hclamp, hclamp⟩

theorem new?_eq_none_iff : (new? n : Option (Pool α)) = none ↔ maxPermits < n := by
  simp [new?_eq]

end Pool

namespace Config

theorem parallelism_ne_zero_iff {c : Config} : c.parallelism ≠ 0 ↔ c.parallelism.toNat ≠ 0 := by
  rw [ne_eq, ← UInt64.toNat_inj]
  rfl

/-- The check lets a configuration pass exactly where every client takes its address and no pool
would clamp its number of reads. Such a number is the size of a pool unless it is more than the most
permits, where there is no pool at all. -/
theorem accepted_config_taken (c : Config) :
    let n := c.parallelism.toNat
    (c.check = .ok () ↔
      (∀ project token answer, Client.new project c.apiRoot token answer =
        .ok ⟨project, c.apiRoot, token, answer⟩) ∧ Pool.clamp n = n) ∧
      (c.check = .ok () → ∀ α : Type,
        ((∃ p : Pool α, Pool.Built n p) ↔ n ≤ Pool.maxPermits) ∧
          ((Pool.new? n : Option (Pool α)) = none ↔ Pool.maxPermits < n)) := by
  intro n
  refine ⟨?_, fun hcheck α => ?_⟩
  · rw [check_ok_iff, Pool.clamp_eq_self_iff, parallelism_ne_zero_iff]
    simp only [Client.new_ok_iff, forall_const]
    exact Iff.rfl
  · have hn : n ≠ 0 := parallelism_ne_zero_iff.mp (check_ok_iff.mp hcheck).2
    exact ⟨Pool.exists_built_iff hn, Pool.new?_eq_none_iff⟩

/-- As many reads as a pool can have permits. -/
def fullConfig : Config :=
  { parallelism := 2305843009213693951, apiRoot := some "http://127.0.0.1:8080/" }

def offline (_ _ : String) : Except TransportFault Response := .error ⟨none, "offline"⟩

theorem fullConfig_taken :
    fullConfig.check = .ok () ∧
      Client.new "test-project" fullConfig.apiRoot (.ok "token") offline =
        .ok ⟨"test-project", fullConfig.apiRoot, .ok "token", offline⟩ ∧
      ∃ p : Pool State, Pool.Built 2305843009213693951 p := by
  have hweb : ApiRoot.IsWeb "http://127.0.0.1:8080/" := .inl (by decide +kernel)
  have hcheck : fullConfig.check = .ok () := by
    refine check_ok_iff.mpr ⟨?_, by decide⟩
    rintro root hroot
    obtain rfl := Option.some.inj hroot
    exact hweb
  obtain ⟨haccepted, hpool⟩ := accepted_config_taken fullConfig
  exact ⟨hcheck, (haccepted.mp hcheck).1 _ _ _, (hpool hcheck State).1.mpr (by decide)⟩

/-- One read more than that. -/
def crowdedConfig : Config := { parallelism := 2305843009213693952 }

theorem crowdedConfig_refused :
    crowdedConfig.check = .ok () ∧
      (Pool.new? crowdedConfig.parallelism.toNat : Option (Pool State)) = none ∧
      ¬∃ p : Pool State, Pool.Built crowdedConfig.parallelism.toNat p := by
  have hnone : (Pool.new? crowdedConfig.parallelism.toNat : Option (Pool State)) = none := rfl
  refine ⟨rfl, hnone, ?_⟩
  rintro ⟨p, hp, _⟩
  cases hnone.symm.trans hp

end Config

end CloudInventory
