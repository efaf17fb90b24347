/-
The client of a dialogue on a network where answers may point elsewhere.

A server, as a dialogue knows it, answers each request once. Between the two
is a client that goes on to wherever an answer points, up to ten times, and
hands over the last answer only. `Server.following` is the server that a
dialogue sees through such a client; it also keeps what went over the wire.

So there are two logs of a run: what the dialogue asked for, and what was on
the wire. `wire_of_run` says how they belong together: for each request of
the dialogue there is one walk on the wire, which begins with this request
and ends with the reply that the dialogue is given. A statement about the
requests of a dialogue is a statement about where the walks begin.

How an address is made of the one before and of what the answer says is left
open (`join`); it may come to nothing, and then the answer is taken as it is.
-/
import HostTelemetry.Proofs.Http.Exchanges
import Mathlib.Data.List.Forall2

namespace HostTelemetry.Http

variable {σ α : Type} {join : String → String → Option String}

-- =============================================================== answers

/-- The statuses on which the same is asked for again. -/
def repeats (status : Nat) : Bool := status = 307 || status = 308

/-- The statuses on which the place is only read. -/
def readsOn (status : Nat) : Bool := status = 301 || status = 302 || status = 303

/-- The request that a client goes on with, if a reply points elsewhere. -/
def Request.onward? (join : String → String → Option String) (r : Request) : Reply → Option Request
  | .closed | .silence => none
  | .response a =>
    if r.follow then
      (a.location.bind (join r.url)).bind fun url =>
        if repeats a.status then some { r with url }
        else if readsOn a.status then some { r with url, method := .get, body := none }
        else none
    else none

-- ============================================================== the client

/-- What comes of a request through a client. -/
structure Chase (σ : Type) where
  reply : Reply
  /-- What was exchanged on the wire. -/
  wire : List Exchange
  /-- The state of the network afterwards. -/
  state : σ

/-- An address in full stands for itself. -/
def inFull (_ place : String) : Option String := some place

/-- Asks, and goes on for so many times. -/
def chase (join : String → String → Option String) (net : Dialogue.Server σ) :
    Nat → Request → σ → Chase σ
  | hops, r, x =>
    let (reply, state) := net.reply r x
    match r.onward? join reply, hops with
    | none, _ => ⟨reply, [⟨r, reply⟩], state⟩
    | some _, 0 => ⟨.closed, [⟨r, reply⟩], state⟩
    | some r', hops + 1 =>
      let rest := chase join net hops r' state
      ⟨rest.reply, ⟨r, reply⟩ :: rest.wire, rest.state⟩

/-- How often a client goes on. -/
def maxHops : Nat := 10

/-- The network as it is seen through a client, with the log of the wire. -/
def Dialogue.Server.following (join : String → String → Option String) (net : Dialogue.Server σ) :
    Dialogue.Server (σ × List Exchange) where
  reply r s :=
    let c := chase join net maxHops r s.1
    (c.reply, c.state, s.2 ++ c.wire)
  now s := net.now s.1

-- ================================================================= walks

/-- The wire from a request to the reply that is handed over. -/
inductive Walk (join : String → String → Option String) :
    Request → List Exchange → Reply → Prop where
  | arrived {r : Request} {reply : Reply} (h : r.onward? join reply = none) :
      Walk join r [⟨r, reply⟩] reply
  | onward {r r' : Request} {reply last : Reply} {wire : List Exchange}
      (h : r.onward? join reply = some r') (hw : Walk join r' wire last) :
      Walk join r (⟨r, reply⟩ :: wire) last
  | lost {r r' : Request} {reply : Reply} (h : r.onward? join reply = some r') :
      Walk join r [⟨r, reply⟩] .closed

theorem walk_chase (net : Dialogue.Server σ) (hops : Nat) (r : Request) (x : σ) :
    Walk join r (chase join net hops r x).wire (chase join net hops r x).reply := by
  induction hops generalizing r x with
  | zero =>
    unfold chase
    cases h : r.onward? join (net.reply r x).1 with
    | none =>
      simp only [h]
      exact .arrived h
    | some r' =>
      simp only [h]
      exact .lost h
  | succ hops ih =>
    unfold chase
    cases h : r.onward? join (net.reply r x).1 with
    | none =>
      simp only [h]
      exact .arrived h
    | some r' =>
      simp only [h]
      exact .onward h (ih r' _)

/-- For each request of a dialogue there is one walk on the wire. -/
theorem wire_of_run {net : Dialogue.Server σ} (d : Dialogue α)
    (s : Dialogue.Scene (σ × List Exchange)) :
    Dialogue.Ends (net.following join) d s fun _ s' log => ∃ walks : List (List Exchange),
      s'.server.2 = s.server.2 ++ walks.flatten ∧
      List.Forall₂ (fun x wire => Walk join x.request wire x.reply) log walks := by
  induction d generalizing s with
  | done a => exact ⟨[], (List.append_nil _).symm, .nil⟩
  | exchange r next ih =>
    refine Dialogue.Ends.exchange (Dialogue.Ends.imp (ih _ _) ?_)
    intro _ s' log ⟨walks, hwire, hwalks⟩
    refine ⟨(chase join net maxHops r s.server.1).wire :: walks, ?_, .cons ?_ hwalks⟩
    · rw [hwire, List.flatten_cons, ← List.append_assoc]
      rfl
    · exact walk_chase net maxHops r s.server.1
  | pause millis next ih => exact ih _
  | consult next ih => exact ih _ s
  | keep g next ih => exact ih _
  | forget next ih => exact ih _

end HostTelemetry.Http
