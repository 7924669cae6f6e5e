import CloudInventory.Proofs.Pool.FirstError

/-! A pool in use whose submissions take each of their looks in one turn: at the pool's
cancellation, at the runner's mark and at the permits, with nothing in between. -/

namespace CloudInventory.Dispatch

variable {α : Type} {limit i k : Nat} {u v : Dispatch α} {c : Call α}

/-- Whether a move is no part of a look. -/
def Move.isWhole : Move α → Bool
  | .enter _ | .look _ | .acquire _ => false
  | _ => true

inductive Turn (α : Type) where
  | poll (k : Nat)
  | move (m : Move α)

def turn : Turn α → Dispatch α → Dispatch α
  | .poll k, u => u.poll k
  | .move m, u => u.take m

def AllowsTurn : Turn α → Dispatch α → Prop
  | .poll _, _ => True
  | .move m, u => m.isWhole = true ∧ u.Allows m

/-- What a pool may come to, turn by turn. -/
def Turns (u v : Dispatch α) : Prop :=
  Relation.ReflTransGen (fun u v => ∃ t, u.AllowsTurn t ∧ u.turn t = v) u v

def playTurns (ts : List (Turn α)) (u : Dispatch α) : Dispatch α := ts.foldl (fun u t => u.turn t) u

def PlaysTurns : List (Turn α) → Dispatch α → Prop
  | [], _ => True
  | t :: ts, u => u.AllowsTurn t ∧ PlaysTurns ts (u.turn t)

theorem turns_play {ts : List (Turn α)} {u : Dispatch α} (h : PlaysTurns ts u) :
    Turns u (u.playTurns ts) := by
  induction ts generalizing u with
  | nil => exact .refl
  | cons t ts ih => exact .head ⟨t, h.1, rfl⟩ (ih h.2)

instance [DecidableEq α] : (t : Turn α) → (u : Dispatch α) → Decidable (u.AllowsTurn t)
  | .poll _, _ => .isTrue trivial
  | .move m, u => inferInstanceAs (Decidable (m.isWhole = true ∧ u.Allows m))

instance decidablePlaysTurns [DecidableEq α] :
    (ts : List (Turn α)) → (u : Dispatch α) → Decidable (PlaysTurns ts u)
  | [], _ => .isTrue trivial
  | t :: ts, u => @instDecidableAnd _ _ inferInstance (decidablePlaysTurns ts (u.turn t))

theorem reaches_turn {t : Turn α} (ht : u.AllowsTurn t) :
    Relation.ReflTransGen Step u (u.turn t) := by
  cases t with
  | poll k => exact reaches_poll k u
  | move m => exact .single ⟨m, ht.2, rfl⟩

theorem Turns.reaches (h : Turns u v) : Relation.ReflTransGen Step u v := by
  induction h with
  | refl => exact .refl
  | tail _ hturn ih =>
    obtain ⟨t, ht, rfl⟩ := hturn
    exact ih.trans (reaches_turn ht)

theorem turns_serveFrom (n k : Nat) (u : Dispatch α) : Turns u (u.serveFrom n k) := by
  induction n generalizing k u with
  | zero => exact .refl
  | succ n ih =>
    have hpoll : ∃ t, u.AllowsTurn t ∧ u.turn t = u.poll k := ⟨.poll k, trivial, rfl⟩
    simp only [serveFrom]
    split
    · exact .head hpoll (ih k (u.poll k))
    · exact .head hpoll (ih (k + 1) (u.poll k))

theorem turns_serve (u : Dispatch α) : Turns u u.serve := turns_serveFrom u.calls.length 0 u

/-- What one whole look of a submission comes to. -/
theorem poll_verdicts (hk : u.calls[k]? = some c) :
    (u.pool.cancelled = true ∧ u.poll k = u.answer k c .refused) ∨
    (u.pool.cancelled = false ∧ u.pool.hasFailed c.runner = true ∧
      u.poll k = u.answer k c .skipped) ∨
    (u.pool.isClosed c.runner = false ∧ 0 < u.pool.free ∧
      u.poll k = (u.answer k c (.accepted u.log.accepted.length)).perform
        (.accept c.runner c.job)) ∨
    (u.MustWait c.runner ∧ u.poll k = u.goTo k .scope) := by
  rw [poll_eq hk]
  cases hc : u.pool.cancelled with
  | true => exact .inl ⟨rfl, by simp⟩
  | false =>
    cases hf : u.pool.hasFailed c.runner with
    | true => exact .inr (.inl ⟨rfl, rfl, by simp [Pool.isClosed, hf]⟩)
    | false =>
      have hopen : u.pool.isClosed c.runner = false := by simp [Pool.isClosed, hc, hf]
      refine .inr (.inr ?_)
      by_cases hfree : 0 < u.pool.free
      · exact .inl ⟨hopen, hfree, by simp [hopen, acquireAt, hfree]⟩
      · have hwait : u.MustWait c.runner := ⟨Nat.eq_zero_of_not_pos hfree, hf, hc⟩
        exact .inr ⟨hwait, by simp [hopen, acquireAt, hfree]⟩

theorem poll_idle (hk : u.calls[k]? = none) : u.poll k = u := by simp [poll, hk]

theorem take_whole {m : Move α} (hm : m.isWhole = true) (u : Dispatch α) :
    (u.take m).log.accepted = u.log.accepted ∧ (u.take m).answers = u.answers := by
  have hacc : ∀ a : Pool.Act α, (∀ i job, a ≠ .accept i job) →
      (u.perform a).log.accepted = u.log.accepted := fun a ha => Pool.Log.accepted_note ha _ _
  cases m with
  | enter | look | acquire => cases hm
  | call | abandon => exact ⟨rfl, rfl⟩
  | openRunner => exact ⟨hacc .addRunner (by simp), rfl⟩
  | advance k => exact ⟨hacc (.advance k) (by simp), rfl⟩
  | startWait i => exact ⟨hacc (.startWait i) (by simp), rfl⟩
  | await i => exact ⟨hacc (.await i) (by simp), rfl⟩
  | drop i => exact ⟨hacc (.drop i) (by simp), rfl⟩
  | cancel => exact ⟨hacc .cancel (by simp), rfl⟩

end CloudInventory.Dispatch
