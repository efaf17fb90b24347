/-
What a dialogue says on the wire, and a rule for each of its steps.

# The triple

`Ends srv d s post` is about one run: `post` holds of the result, of the
scene afterwards, and of the exchanges in between. A dialogue is total
against every server, so nothing is said about runs that come to no end;
a server that keeps silent is an answer like any other.

The rules follow the constructors of a dialogue. `Ends.bind` is the one
that carries the others: the exchanges of a composed dialogue are those of
its first part followed by those of its second, so a statement about all
requests of a plugin is put together from one statement for each function
of the plugin.

# Calls of an interface

A call either sends exactly one request, or, with a login that cannot be
written into a header, none (`Ends.call`, `Ends.call_unsendable`). What it
gives back depends on the reply alone. `Reply.bytes?` and `Reply.reads`
say which replies count as an answer, apart from the text of the fault
that stands for all others.
-/
import HostTelemetry.Http.Fetch

namespace HostTelemetry.Http

open Service (Fault)

-- ============================================================ exchanges

/-- A request and what came of it. -/
structure Exchange where
  request : Request
  reply : Reply
deriving Inhabited

namespace Dialogue

variable {σ α β : Type} {srv : Server σ}

/-- What a dialogue sends on its run, the earliest first, with what came
of it. -/
def exchanges (srv : Server σ) : Dialogue α → Scene σ → List Exchange
  | done _, _ => []
  | exchange r next, s =>
    let (reply, server) := srv.reply r s.server
    ⟨r, reply⟩ :: (next reply).exchanges srv
      { s with server, elapsed := s.elapsed + waited r reply }
  | pause millis next, s => next.exchanges srv { s with elapsed := s.elapsed + millis }
  | consult next, s =>
    (next ((usable (srv.now s.server) s.cache).map (·.credentials))).exchanges srv s
  | keep g next, s =>
    next.exchanges srv { s with cache := some (g.session (srv.now s.server)) }
  | forget next, s => next.exchanges srv { s with cache := none }

/-- A composed dialogue sends what its first part sends, and then what its
second part sends. -/
theorem exchanges_bind (d : Dialogue α) (f : α → Dialogue β) (s : Scene σ) :
    (d.bind f).exchanges srv s
      = d.exchanges srv s ++ (f (d.run srv s).1).exchanges srv (d.run srv s).2 := by
  induction d generalizing s with
  | done a => rfl
  | exchange r next ih =>
      simp only [bind, exchanges, run, List.cons_append]
      rw [ih]
  | pause millis next ih =>
      simp only [bind, exchanges, run]
      exact ih _
  | consult next ih =>
      simp only [bind, exchanges, run]
      exact ih _ _
  | keep g next ih =>
      simp only [bind, exchanges, run]
      exact ih _
  | forget next ih =>
      simp only [bind, exchanges, run]
      exact ih _

-- =========================================================== the triple

/-- On the run of `d` from `s`, `post` holds of the result, of the scene
afterwards and of what was exchanged. -/
def Ends (srv : Server σ) (d : Dialogue α) (s : Scene σ)
    (post : α → Scene σ → List Exchange → Prop) : Prop :=
  post (d.run srv s).1 (d.run srv s).2 (d.exchanges srv s)

/-- A weaker postcondition. -/
theorem Ends.imp {d : Dialogue α} {s : Scene σ}
    {post post' : α → Scene σ → List Exchange → Prop}
    (h : Ends srv d s post) (himp : ∀ a s' log, post a s' log → post' a s' log) :
    Ends srv d s post' :=
  himp _ _ _ h

/-- The end of a dialogue exchanges nothing. -/
theorem Ends.done {a : α} {s : Scene σ} {post : α → Scene σ → List Exchange → Prop}
    (h : post a s []) : Ends srv (.done a) s post :=
  h

/-- One dialogue after the other. -/
theorem Ends.bind {d : Dialogue α} {f : α → Dialogue β} {s : Scene σ}
    {m : α → Scene σ → List Exchange → Prop}
    {post : β → Scene σ → List Exchange → Prop}
    (hd : Ends srv d s m)
    (hf : ∀ a s' log, m a s' log →
      Ends srv (f a) s' fun b s'' log' => post b s'' (log ++ log')) :
    Ends srv (d.bind f) s post := by
  have h := hf _ _ _ hd
  unfold Ends at h ⊢
  rw [run_bind, exchanges_bind]
  exact h

/-- One request, and what follows on its reply. -/
theorem Ends.exchange {r : Request} {next : Reply → Dialogue α} {s : Scene σ}
    {post : α → Scene σ → List Exchange → Prop}
    (h : Ends srv (next (srv.reply r s.server).1)
      { s with
        server := (srv.reply r s.server).2
        elapsed := s.elapsed + waited r (srv.reply r s.server).1 }
      fun a s' log => post a s' (⟨r, (srv.reply r s.server).1⟩ :: log)) :
    Ends srv (.exchange r next) s post :=
  h

/-- A look at the cache finds the session that can be used now. -/
theorem Ends.consult {next : Option Credentials → Dialogue α} {s : Scene σ}
    {post : α → Scene σ → List Exchange → Prop}
    (h : Ends srv (next ((usable (srv.now s.server) s.cache).map (·.credentials))) s post) :
    Ends srv (.consult next) s post :=
  h

/-- What was granted is in the cache from then on. -/
theorem Ends.keep {g : Grant} {next : Dialogue α} {s : Scene σ}
    {post : α → Scene σ → List Exchange → Prop}
    (h : Ends srv next { s with cache := some (g.session (srv.now s.server)) } post) :
    Ends srv (.keep g next) s post :=
  h

/-- The cache is empty from then on. -/
theorem Ends.forget {next : Dialogue α} {s : Scene σ}
    {post : α → Scene σ → List Exchange → Prop}
    (h : Ends srv next { s with cache := none } post) :
    Ends srv (.forget next) s post :=
  h

end Dialogue

-- ============================================================== replies

/-- The content of a reply that answers a call: the status is 200, and the
body arrives as far as it is read. -/
def Reply.bytes? : Reply → Option Bytes
  | .response r => if r.status = 200 then (readLimited maxCallBody r.body).toOption else none
  | .closed | .silence => none

/-- What a reply holds as JSON of an expected form, if it answers a call
at all. -/
def Reply.reads {α : Type} (read? : Json → Option α) (reply : Reply) : Option α :=
  (reply.bytes?.bind Json.ofBytes?).bind read?

/-- Whether a reply asks for a login. -/
def Reply.isRefusal : Reply → Bool
  | .response r => r.status == 401
  | .closed | .silence => false

/-- A call takes over the content of an answer, and of nothing else. -/
theorem Reply.content_eq_ok_iff {reply : Reply} {bytes : Bytes} {url : String} :
    reply.content url = .ok bytes ↔ reply.bytes? = some bytes := by
  cases reply with
  | closed => simp [content, bytes?]
  | silence => simp [content, bytes?]
  | response r =>
      simp only [content, bytes?]
      by_cases hs : r.status = 200
      · rw [if_neg (by simpa using hs), if_pos hs]
        cases readLimited maxCallBody r.body with
        | error e => exact ⟨nofun, nofun⟩
        | ok content =>
            show Except.ok content = .ok bytes ↔ some content = some bytes
            rw [Except.ok.injEq, Option.some.injEq]
      · rw [if_pos hs, if_neg hs]
        simp

theorem Reply.content_of_isRefusal {reply : Reply} (url : String)
    (h : reply.isRefusal = true) : reply.content url = .error (.status url 401) := by
  cases reply with
  | closed => cases h
  | silence => cases h
  | response r =>
      have hs : r.status = 401 := by simpa [isRefusal] using h
      simp only [content, hs]
      rfl

/-- A call decodes what its reply holds, and nothing else. -/
theorem Reply.decodeBody_eq_ok_iff {α : Type} {read? : Json → Option α} {reply : Reply}
    {url : String} {a : α} :
    (reply.content url).bind (decodeBody read? url) = .ok a ↔ reply.reads read? = some a := by
  unfold Reply.reads
  cases hb : reply.bytes? with
  | none =>
      cases hc : reply.content url with
      | ok bytes =>
          rw [content_eq_ok_iff.mp hc] at hb
          cases hb
      | error e => simp [Except.bind]
  | some bytes =>
      rw [content_eq_ok_iff.mpr hb]
      simp only [Except.bind, decodeBody, Option.bind_some]
      cases (Json.ofBytes? bytes).bind read? <;> simp

-- ================================================================ calls

namespace Dialogue

variable {σ α : Type} {srv : Server σ}

/-- A call times out exactly where waiting for its reply takes all its
patience. -/
theorem content_eq_timeout_iff (method : Method) (url : String)
    (credentials : Option Credentials) (body : Option Json) (reply : Reply) :
    reply.content url = .error (.timeout callPatience) ↔
      waited (callRequest method url credentials body) reply = callPatience := by
  cases reply with
  | closed => exact iff_of_false nofun nofun
  | silence => exact iff_of_true rfl rfl
  | response r =>
      have hreads : (callRequest method url credentials body).reads r.status = true
          ↔ r.status = 200 := by
        rw [Request.reads_iff]
        show 200 ≤ r.status ∧ r.status ≤ 200 ↔ r.status = 200
        omega
      have hlimit : (callRequest method url credentials body).limit = maxCallBody := rfl
      simp only [Reply.content, waited, Bool.and_eq_true, hreads, hlimit, Body.stalls]
      by_cases hs : r.status = 200
      · rw [if_neg (not_not_intro hs)]
        cases readLimited maxCallBody r.body with
        | ok bytes => exact iff_of_false nofun (by simp [callPatience])
        | error e =>
          cases e with
          | broken => exact iff_of_false nofun (by simp [callPatience])
          | stalled =>
            rw [if_pos ⟨hs, rfl⟩]
            exact iff_of_true rfl rfl
      · rw [if_pos hs, if_neg fun h => hs h.1]
        exact iff_of_false nofun nofun

/-- A call whose login can be presented sends one request and gives back
the content of the reply. The cache stays as it is. -/
theorem Ends.call {method : Method} {url : String} {credentials : Option Credentials}
    {body : Option Json} {s : Scene σ}
    {post : Except Fault Bytes → Scene σ → List Exchange → Prop}
    (hc : credentials.all Credentials.canBeSent = true)
    (h : ∀ reply server elapsed,
      srv.reply (callRequest method url credentials body) s.server = (reply, server) →
      post (reply.content url) { s with server, elapsed }
        [⟨callRequest method url credentials body, reply⟩]) :
    Ends srv (Http.call method url credentials body) s post := by
  unfold Http.call
  rw [if_pos hc]
  exact Ends.exchange (Ends.done (h _ _ _ rfl))

/-- A call whose login cannot be presented sends nothing. -/
theorem Ends.call_unsendable {method : Method} {url : String}
    {credentials : Option Credentials} {body : Option Json} {s : Scene σ}
    {post : Except Fault Bytes → Scene σ → List Exchange → Prop}
    (hc : credentials.all Credentials.canBeSent = false)
    (h : post (.error (.request url)) s []) :
    Ends srv (Http.call method url credentials body) s post := by
  unfold Http.call
  rw [if_neg (by rw [hc]; decide)]
  exact Ends.done h

end Dialogue

end HostTelemetry.Http
