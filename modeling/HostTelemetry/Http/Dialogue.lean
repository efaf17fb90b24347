/-
What a plugin does with a service, as data: a tree whose nodes are single
steps (a request, a pause, a look at the cached session, a change of it)
and whose branches are the possible answers. Between two steps anything
may happen, so the tree says at which points two dialogues can interleave.

`attempt` gives a dialogue a server that answers and a cache of its own, as a
machine does: it breaks off, with no result, where the clock cannot hold the
end of a session that is to be kept. `run` is the same on a clock that has no
end. An attempt that does not break off is a run, so that what is said of all
runs is said of it too. `runWithin` is a run under a budget of time that may
stop on the way, with the cache as it is then.
-/
import HostTelemetry.Http.Session

namespace HostTelemetry.Http

/-- A dialogue that ends with an `α`. -/
inductive Dialogue (α : Type) where
  | done (a : α)
  | exchange (r : Request) (next : Reply → Dialogue α)
  /-- Lets some milliseconds pass. -/
  | pause (millis : Nat) (next : Dialogue α)
  /-- Looks for a session that can be used. -/
  | consult (next : Option Credentials → Dialogue α)
  | keep (g : Grant) (next : Dialogue α)
  | forget (next : Dialogue α)
deriving Inhabited

namespace Dialogue

/-- One dialogue after the other. -/
def bind {α β : Type} : Dialogue α → (α → Dialogue β) → Dialogue β
  | done a, f => f a
  | exchange r next, f => exchange r fun reply => (next reply).bind f
  | pause millis next, f => pause millis (next.bind f)
  | consult next, f => consult fun c => (next c).bind f
  | keep g next, f => keep g (next.bind f)
  | forget next, f => forget (next.bind f)

instance : Monad Dialogue where
  pure := done
  bind := bind

-- =============================================================== servers

/-- Whoever answers requests, with a state of its own, and the moment that
sessions are measured by. -/
structure Server (σ : Type) where
  reply : Request → σ → Reply × σ
  /-- The moment, in seconds. -/
  now : σ → Nat

/-- A network on which no connection comes about. -/
def Server.unreachable : Server Unit where
  reply _ s := (.closed, s)
  now _ := 0

/-- A server, a cache, and the time that the dialogue has taken. -/
structure Scene (σ : Type) where
  server : σ
  cache : Option Session := none
  /-- The milliseconds spent waiting. -/
  elapsed : Nat := 0

/-- The milliseconds that waiting for a reply takes: none, unless it does
not come, or stalls while it is read. -/
def waited (r : Request) : Reply → Nat
  | .silence => r.patience
  | .closed => 0
  | .response a => if r.reads a.status && a.body.stalls r.limit then r.patience else 0

/-- Runs a dialogue on the clock of a machine. There is no result where that
does not hold the end of a session. -/
def attempt {σ α : Type} (srv : Server σ) : Dialogue α → Scene σ → Option (α × Scene σ)
  | done a, s => some (a, s)
  | exchange r next, s =>
    let (reply, server) := srv.reply r s.server
    (next reply).attempt srv { s with server, elapsed := s.elapsed + waited r reply }
  | pause millis next, s => next.attempt srv { s with elapsed := s.elapsed + millis }
  | consult next, s =>
    (next ((usable (srv.now s.server) s.cache).map (·.credentials))).attempt srv s
  | keep g next, s =>
    (g.session? (srv.now s.server)).bind fun x => next.attempt srv { s with cache := some x }
  | forget next, s => next.attempt srv { s with cache := none }

/-- Runs a dialogue to its end, on a clock that has none. -/
def run {σ α : Type} (srv : Server σ) : Dialogue α → Scene σ → α × Scene σ
  | done a, s => (a, s)
  | exchange r next, s =>
    let (reply, server) := srv.reply r s.server
    (next reply).run srv { s with server, elapsed := s.elapsed + waited r reply }
  | pause millis next, s => next.run srv { s with elapsed := s.elapsed + millis }
  | consult next, s =>
    (next ((usable (srv.now s.server) s.cache).map (·.credentials))).run srv s
  | keep g next, s => next.run srv { s with cache := some (g.session (srv.now s.server)) }
  | forget next, s => next.run srv { s with cache := none }

/-- Runs a dialogue until its end or until a wait would go beyond the
budget of milliseconds, which is then used up. -/
def runWithin {σ α : Type} (srv : Server σ) (budget : Nat) :
    Dialogue α → Scene σ → Option α × Scene σ
  | done a, s => (some a, s)
  | exchange r next, s =>
    let (reply, server) := srv.reply r s.server
    let elapsed := s.elapsed + waited r reply
    if elapsed ≤ budget then (next reply).runWithin srv budget { s with server, elapsed }
    else (none, { s with server, elapsed := budget })
  | pause millis next, s =>
    if s.elapsed + millis ≤ budget then
      next.runWithin srv budget { s with elapsed := s.elapsed + millis }
    else (none, { s with elapsed := budget })
  | consult next, s =>
    (next ((usable (srv.now s.server) s.cache).map (·.credentials))).runWithin srv budget s
  | keep g next, s =>
    next.runWithin srv budget { s with cache := some (g.session (srv.now s.server)) }
  | forget next, s => next.runWithin srv budget { s with cache := none }

-- ================================================================ lemmas

variable {σ α β : Type} {srv : Server σ}

@[simp] theorem bind_eq (d : Dialogue α) (f : α → Dialogue β) : (d >>= f) = d.bind f := rfl

@[simp] theorem pure_eq (a : α) : (pure a : Dialogue α) = done a := rfl

/-- A composed dialogue runs its parts one after the other. -/
theorem run_bind (d : Dialogue α) (f : α → Dialogue β) (s : Scene σ) :
    (d.bind f).run srv s = (f (d.run srv s).1).run srv (d.run srv s).2 := by
  induction d generalizing s with
  | done a => rfl
  | exchange r next ih => simp only [bind, run]; exact ih _ _
  | pause millis next ih => simp only [bind, run]; exact ih _
  | consult next ih => simp only [bind, run]; exact ih _ _
  | keep g next ih => simp only [bind, run]; exact ih _
  | forget next ih => simp only [bind, run]; exact ih _

/-- Time does not run back. -/
theorem elapsed_le_run (d : Dialogue α) (s : Scene σ) :
    s.elapsed ≤ (d.run srv s).2.elapsed := by
  induction d generalizing s with
  | done a => exact Nat.le_refl _
  | exchange r next ih =>
    simp only [run]
    refine Nat.le_trans ?_ (ih _ _)
    exact Nat.le_add_right _ _
  | pause millis next ih =>
    simp only [run]
    refine Nat.le_trans ?_ (ih _)
    exact Nat.le_add_right _ _
  | consult next ih => simp only [run]; exact ih _ _
  | keep g next ih =>
    simp only [run]
    refine Nat.le_trans ?_ (ih _)
    exact Nat.le_refl _
  | forget next ih =>
    simp only [run]
    refine Nat.le_trans ?_ (ih _)
    exact Nat.le_refl _

/-- A budget that suffices changes nothing. -/
theorem runWithin_of_le (d : Dialogue α) (s : Scene σ) {budget : Nat}
    (h : (d.run srv s).2.elapsed ≤ budget) :
    d.runWithin srv budget s = (some (d.run srv s).1, (d.run srv s).2) := by
  induction d generalizing s with
  | done a => rfl
  | exchange r next ih =>
    simp only [run, runWithin] at h ⊢
    rw [if_pos (Nat.le_trans (elapsed_le_run _ _) h)]
    exact ih _ _ h
  | pause millis next ih =>
    simp only [run, runWithin] at h ⊢
    rw [if_pos (Nat.le_trans (elapsed_le_run next _) h)]
    exact ih _ h
  | consult next ih => simp only [run, runWithin] at h ⊢; exact ih _ _ h
  | keep g next ih => simp only [run, runWithin] at h ⊢; exact ih _ h
  | forget next ih => simp only [run, runWithin] at h ⊢; exact ih _ h

/-- A budget that does not suffice leaves no result. -/
theorem runWithin_of_lt (d : Dialogue α) (s : Scene σ) {budget : Nat} (hs : s.elapsed ≤ budget)
    (h : budget < (d.run srv s).2.elapsed) : (d.runWithin srv budget s).1 = none := by
  induction d generalizing s with
  | done a => exact absurd hs (Nat.not_le_of_lt h)
  | exchange r next ih =>
    simp only [run, runWithin] at h ⊢
    by_cases hin : s.elapsed + waited r (srv.reply r s.server).1 ≤ budget
    · rw [if_pos hin]
      exact ih _ _ hin h
    · rw [if_neg hin]
  | pause millis next ih =>
    simp only [run, runWithin] at h ⊢
    by_cases hin : s.elapsed + millis ≤ budget
    · rw [if_pos hin]
      exact ih _ hin h
    · rw [if_neg hin]
  | consult next ih => simp only [run, runWithin] at h ⊢; exact ih _ _ hs h
  | keep g next ih => simp only [run, runWithin] at h ⊢; exact ih _ hs h
  | forget next ih => simp only [run, runWithin] at h ⊢; exact ih _ hs h

end Dialogue

end HostTelemetry.Http
