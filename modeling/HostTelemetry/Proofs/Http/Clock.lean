/-
When a run on the clock of a machine breaks off.

# The clock

A moment of the machine's clock is a signed number of 64 bits, in seconds, so
there is a last one (`clockLimit`), and what would be later cannot be said
(`after?`). A whole number of seconds is added, so what the clock holds below
the second stays as it is and is left out.

# Runs

What decides is `keepings`, the list of the sessions that a dialogue keeps,
with the moments at which it does: `attempt` is `run` if the clock holds the
end of each of them, and comes to nothing else (`attempt_eq`). So a statement
about every run holds of every attempt that comes to an end
(`Ends.of_attempt`).

`fits_iff` says which lifetimes a clock holds. A server that names none, or
none above zero, is granted the usual one, so only a long one can be too much,
and the margin by which a session is given up early spares ten seconds.
-/
import HostTelemetry.Proofs.Http.Exchanges

namespace HostTelemetry.Http

-- ============================================================ the clock

/-- What is made of a later moment. -/
theorem map_after? {α : Type} (f : Nat → α) (now seconds : Nat) :
    (after? now seconds).map f
      = if now + seconds ≤ clockLimit then some (f (now + seconds)) else none :=
  apply_ite (Option.map f) _ _ _

/-- A session that is kept, and the moment at which this is done. -/
structure Keeping where
  moment : Nat
  grant : Grant
deriving DecidableEq, Repr, Inhabited

/-- The clock holds the end of the session. -/
def Keeping.Fits (k : Keeping) : Prop := k.moment + lifetime k.grant.validity ≤ clockLimit

instance (k : Keeping) : Decidable k.Fits := inferInstanceAs (Decidable (_ ≤ _))

theorem Grant.session?_eq (now : Nat) (g : Grant) :
    g.session? now = if (⟨now, g⟩ : Keeping).Fits then some (g.session now) else none :=
  map_after? _ now (lifetime g.validity)

/-- Whether a session fits hangs on its validity alone, unless the clock is
about to end anyway. -/
theorem Keeping.fits_iff {k : Keeping} (h : k.moment + lifetime 0 ≤ clockLimit) :
    k.Fits ↔ k.moment + k.grant.validity ≤ clockLimit + expiryMargin := by
  unfold Fits lifetime defaultValidity expiryMargin at *
  split <;> omega

-- ============================================================= dialogues

namespace Dialogue

variable {σ α β : Type} {srv : Server σ}

/-- The sessions that a dialogue keeps on its run, the earliest first. -/
def keepings (srv : Server σ) : Dialogue α → Scene σ → List Keeping
  | done _, _ => []
  | exchange r next, s =>
    let (reply, server) := srv.reply r s.server
    (next reply).keepings srv { s with server, elapsed := s.elapsed + waited r reply }
  | pause millis next, s => next.keepings srv { s with elapsed := s.elapsed + millis }
  | consult next, s =>
    (next ((usable (srv.now s.server) s.cache).map (·.credentials))).keepings srv s
  | keep g next, s =>
    ⟨srv.now s.server, g⟩
      :: next.keepings srv { s with cache := some (g.session (srv.now s.server)) }
  | forget next, s => next.keepings srv { s with cache := none }

/-- A composed dialogue keeps what its first part keeps, and then what its
second part keeps. -/
theorem keepings_bind (d : Dialogue α) (f : α → Dialogue β) (s : Scene σ) :
    (d.bind f).keepings srv s
      = d.keepings srv s ++ (f (d.run srv s).1).keepings srv (d.run srv s).2 := by
  induction d generalizing s with
  | done a => rfl
  | exchange r next ih => exact ih _ _
  | pause millis next ih => exact ih _
  | consult next ih => exact ih _ _
  | keep g next ih =>
    simp only [bind, keepings, run, List.cons_append]
    rw [ih]
  | forget next ih => exact ih _

/-- On a clock that ends a run comes to the same, or it breaks off, namely
where the clock does not hold the end of a session. -/
theorem attempt_eq (d : Dialogue α) (s : Scene σ) :
    d.attempt srv s = if ∀ k ∈ d.keepings srv s, k.Fits then some (d.run srv s) else none := by
  induction d generalizing s with
  | done a => rfl
  | exchange r next ih => exact ih _ _
  | pause millis next ih => exact ih _
  | consult next ih => exact ih _ _
  | keep g next ih =>
    simp only [attempt, keepings, run, Grant.session?_eq, List.forall_mem_cons]
    by_cases hfits : (⟨srv.now s.server, g⟩ : Keeping).Fits
    · rw [if_pos hfits, Option.bind_some, ih]
      simp only [hfits, true_and]
    · rw [if_neg hfits, if_neg fun h => hfits h.1]
      rfl
  | forget next ih => exact ih _

/-- What does not break off is a run. -/
theorem run_of_attempt {d : Dialogue α} {s : Scene σ} {result : α × Scene σ}
    (h : d.attempt srv s = some result) : d.run srv s = result := by
  rw [attempt_eq] at h
  exact Option.some.inj (Option.ite_none_right_eq_some.mp h).2

/-- What is said of every run is true of the attempts that come to an end. -/
theorem Ends.of_attempt {d : Dialogue α} {s s' : Scene σ} {a : α}
    {post : α → Scene σ → List Exchange → Prop} (h : Ends srv d s post)
    (hattempt : d.attempt srv s = some (a, s')) : post a s' (d.exchanges srv s) := by
  rw [Ends, run_of_attempt hattempt] at h
  exact h

end Dialogue

end HostTelemetry.Http
