/-
Two dialogues side by side, and when their runs cannot be told apart.

# Twins

`Twins R stop d d'` walks through two dialogues at once. They take the same
steps and go on alike after each answer; only what they ask for may differ,
and then it is related by `R`. From a request on which `stop` holds nothing
more is asked of the second one. With equality for `R` this says that the
second does all that the first does until then; with nothing to stop at it
says that the two differ in their requests only.

# Runs

That two requests are answered alike is not enough for a server with a
memory, since it may tell them apart by a later answer. `Alike` therefore
speaks of all that can be heard from two states on, and of nothing else: the
states themselves may differ. Twins that begin with alike servers and equal
caches come to equal results and leave equal caches (`Twins.sameRun`, by
induction on the walk; the servers stay alike along it).
-/
import HostTelemetry.Proofs.Http.Exchanges
import HostTelemetry.Proofs.Runs
import Mathlib.Data.List.Forall2

namespace HostTelemetry.Http.Dialogue

variable {σ α β : Type} {srv : Server σ} {R : Request → Request → Prop} {stop : Request → Prop}

-- =============================================================== servers

/-- The state of a server after some requests. -/
def after (srv : Server σ) : List Request → σ → σ := go fun r x => (srv.reply r x).2

/-- What is heard of a server on some requests. -/
def heard (srv : Server σ) : List Request → σ → List Reply :=
  along (fun r x => (srv.reply r x).2) fun r x => [(srv.reply r x).1]

/-- Nobody who asks related requests can tell the two states apart, neither
by the answers nor by the clock. -/
def Alike (srv : Server σ) (R : Request → Request → Prop) (x y : σ) : Prop :=
  ∀ l l', List.Forall₂ R l l' →
    heard srv l x = heard srv l' y ∧ srv.now (after srv l x) = srv.now (after srv l' y)

namespace Alike

variable {x y : σ}

theorem now_eq (h : Alike srv R x y) : srv.now x = srv.now y := (h [] [] .nil).2

theorem step (h : Alike srv R x y) {r r' : Request} (hr : R r r') :
    (srv.reply r x).1 = (srv.reply r' y).1 ∧ Alike srv R (srv.reply r x).2 (srv.reply r' y).2 := by
  constructor
  · obtain ⟨hheard, -⟩ := h [r] [r'] (.cons hr .nil)
    exact (List.cons.inj hheard).1
  · intro l l' hl
    obtain ⟨hheard, hnow⟩ := h (r :: l) (r' :: l') (.cons hr hl)
    exact ⟨(List.cons.inj hheard).2, hnow⟩

/-- A server that takes related requests for the same. -/
theorem of_reply_eq (h : ∀ r r' x, R r r' → srv.reply r x = srv.reply r' x) (x : σ) :
    Alike srv R x x := by
  intro l l' hl
  induction hl generalizing x with
  | nil => exact ⟨rfl, rfl⟩
  | @cons r r' l l' hr _ ih =>
    have hsame := h r r' x hr
    obtain ⟨hheard, hnow⟩ := ih (srv.reply r x).2
    constructor
    · show (srv.reply r x).1 :: heard srv l (srv.reply r x).2
        = (srv.reply r' x).1 :: heard srv l' (srv.reply r' x).2
      rw [← hsame, hheard]
    · show srv.now (after srv l (srv.reply r x).2) = srv.now (after srv l' (srv.reply r' x).2)
      rw [← hsame, hnow]

theorem refl (x : σ) : Alike srv Eq x x := of_reply_eq (fun _ _ _ h => by rw [h]) x

end Alike

-- ================================================================= twins

/-- Two dialogues that take the same steps, up to related requests, and up
to a request to stop at. -/
inductive Twins (R : Request → Request → Prop) (stop : Request → Prop) :
    Dialogue α → Dialogue α → Prop where
  | done (a : α) : Twins R stop (.done a) (.done a)
  | exchange {r r' : Request} {next next' : Reply → Dialogue α} (hr : R r r')
      (h : ∀ reply, Twins R stop (next reply) (next' reply)) :
      Twins R stop (.exchange r next) (.exchange r' next')
  | pause {millis : Nat} {next next' : Dialogue α} (h : Twins R stop next next') :
      Twins R stop (.pause millis next) (.pause millis next')
  | consult {next next' : Option Credentials → Dialogue α}
      (h : ∀ c, Twins R stop (next c) (next' c)) : Twins R stop (.consult next) (.consult next')
  | keep {g : Grant} {next next' : Dialogue α} (h : Twins R stop next next') :
      Twins R stop (.keep g next) (.keep g next')
  | forget {next next' : Dialogue α} (h : Twins R stop next next') :
      Twins R stop (.forget next) (.forget next')
  | stopped {r : Request} {next : Reply → Dialogue α} {d' : Dialogue α} (hr : stop r) :
      Twins R stop (.exchange r next) d'

namespace Twins

theorem refl (hR : ∀ r, R r r) (d : Dialogue α) : Twins R stop d d := by
  induction d with
  | done a => exact .done a
  | exchange r next ih => exact .exchange (hR r) ih
  | pause millis next ih => exact .pause ih
  | consult next ih => exact .consult ih
  | keep g next ih => exact .keep ih
  | forget next ih => exact .forget ih

theorem bind {d d' : Dialogue α} {f f' : α → Dialogue β} (hd : Twins R stop d d')
    (hf : ∀ a, Twins R stop (f a) (f' a)) : Twins R stop (d.bind f) (d'.bind f') := by
  induction hd with
  | done a => exact hf a
  | exchange hr _ ih => exact .exchange hr ih
  | pause _ ih => exact .pause ih
  | consult _ ih => exact .consult ih
  | keep _ ih => exact .keep ih
  | forget _ ih => exact .forget ih
  | stopped hr => exact .stopped hr

end Twins

-- ================================================================== runs

/-- Two runs come to the same. What is asked for on the way is related one
by one, and answered alike. -/
structure SameRun (srv : Server σ) (R : Request → Request → Prop) (d d' : Dialogue α)
    (s s' : Scene σ) : Prop where
  result : (d.run srv s).1 = (d'.run srv s').1
  cache : (d.run srv s).2.cache = (d'.run srv s').2.cache
  elapsed : (d.run srv s).2.elapsed = (d'.run srv s').2.elapsed
  exchanges : List.Forall₂ (fun x y => R x.request y.request ∧ x.reply = y.reply)
    (d.exchanges srv s) (d'.exchanges srv s')

/-- Two scenes that a dialogue cannot tell apart. -/
structure Level (srv : Server σ) (R : Request → Request → Prop) (s s' : Scene σ) : Prop where
  server : Alike srv R s.server s'.server
  cache : s.cache = s'.cache
  elapsed : s.elapsed = s'.elapsed

/-- Twins come to the same, unless there is something to stop at. -/
theorem Twins.sameRun (hR : ∀ r r', R r r' → ∀ reply, waited r reply = waited r' reply)
    {d d' : Dialogue α}
    (h : Twins R stop d d') {s s' : Scene σ} (hs : Level srv R s s')
    (hgo : ∀ x ∈ d.exchanges srv s, ¬ stop x.request) : SameRun srv R d d' s s' := by
  induction h generalizing s s' with
  | done a => exact ⟨rfl, hs.cache, hs.elapsed, .nil⟩
  | @exchange r r' next next' hr _ ih =>
    obtain ⟨hreply, halike⟩ := hs.server.step hr
    have hnext : SameRun srv R (next (srv.reply r s.server).1) (next' (srv.reply r' s'.server).1)
        { s with
          server := (srv.reply r s.server).2
          elapsed := s.elapsed + waited r (srv.reply r s.server).1 }
        { s' with
          server := (srv.reply r' s'.server).2
          elapsed := s'.elapsed + waited r' (srv.reply r' s'.server).1 } := by
      rw [← hreply]
      refine ih _ ⟨halike, hs.cache, ?_⟩ fun x hx => hgo x (List.mem_cons_of_mem _ hx)
      show s.elapsed + _ = s'.elapsed + _
      rw [hs.elapsed, hR r r' hr]
    exact ⟨hnext.result, hnext.cache, hnext.elapsed, .cons ⟨hr, hreply⟩ hnext.exchanges⟩
  | @pause millis next next' _ ih =>
    have hnext : SameRun srv R next next' { s with elapsed := s.elapsed + millis }
        { s' with elapsed := s'.elapsed + millis } := by
      refine ih ⟨hs.server, hs.cache, ?_⟩ hgo
      show s.elapsed + _ = s'.elapsed + _
      rw [hs.elapsed]
    exact ⟨hnext.result, hnext.cache, hnext.elapsed, hnext.exchanges⟩
  | @consult next next' _ ih =>
    -- both look at the same moment and find the same
    have hfound : (usable (srv.now s'.server) s'.cache).map (·.credentials)
        = (usable (srv.now s.server) s.cache).map (·.credentials) := by
      rw [hs.server.now_eq, hs.cache]
    have hnext : SameRun srv R (next ((usable (srv.now s.server) s.cache).map (·.credentials)))
        (next' ((usable (srv.now s'.server) s'.cache).map (·.credentials))) s s' := by
      rw [hfound]
      exact ih _ hs hgo
    exact ⟨hnext.result, hnext.cache, hnext.elapsed, hnext.exchanges⟩
  | @keep g next next' _ ih =>
    have hnext : SameRun srv R next next' { s with cache := some (g.session (srv.now s.server)) }
        { s' with cache := some (g.session (srv.now s'.server)) } := by
      refine ih ⟨hs.server, ?_, hs.elapsed⟩ hgo
      show some _ = some _
      rw [hs.server.now_eq]
    exact ⟨hnext.result, hnext.cache, hnext.elapsed, hnext.exchanges⟩
  | @forget next next' _ ih =>
    have hnext : SameRun srv R next next' { s with cache := none } { s' with cache := none } :=
      ih ⟨hs.server, rfl, hs.elapsed⟩ hgo
    exact ⟨hnext.result, hnext.cache, hnext.elapsed, hnext.exchanges⟩
  | stopped hr => exact absurd hr (hgo _ List.mem_cons_self)

end HostTelemetry.Http.Dialogue
