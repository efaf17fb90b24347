/-
Two dialogues at once, over one cache and one server.

# Runs

A dialogue is a tree of single steps, so two of them are run together by
saying whose turn it is, again and again, and what the world does in between
(`Choice`). Every order is possible. A request is one step, at the moment at
which the server answers it; what the dialogue does on the answer may come
much later. A run is seen as a list of events, each of them a deed of one of
the two. With turns for one of them only, the run is the one that it has
alone (`alone`).

# What a dialogue knows of the cache

Whatever a dialogue has seen of the cache may have changed since. `Minds`
says, of the tree alone, that a dialogue minds its business all the same: it
empties the cache only right after a request of its own was refused, and
that request carried what it found in the cache, or put there, when it last
had to do with it.

What follows from that in company is `emptied_of_minds`: of the session that
is lost we know that it was there at that time, or that the other one has put
it there since. The engine is `Recalls`, which ties what a dialogue believes
to the events so far; its own steps and the steps of the other preserve it
for different reasons, and the run is an induction on the turns.
-/
import HostTelemetry.Proofs.Http.Exchanges
import HostTelemetry.Proofs.Runs

namespace HostTelemetry.Http.Dialogue

variable {σ α β : Type} {srv : Server σ}

-- ================================================================= deeds

/-- What a step of a dialogue does. -/
inductive Deed where
  | said (x : Exchange)
  | rested
  /-- What was in the cache, and the moment. -/
  | looked (cache : Option Session) (now : Nat)
  | kept (x : Session)
  /-- What was in the cache until then. -/
  | emptied (cache : Option Session)

/-- Whether the deed has to do with the cache. -/
def Deed.isAccess : Deed → Bool
  | .said _ | .rested => false
  | .looked .. | .kept _ | .emptied _ => true

/-- What the deed shows to be in the cache, whether or not it can be used. -/
def Deed.content? : Deed → Option Session
  | .looked cache _ => cache
  | .kept x => some x
  | .said _ | .rested | .emptied _ => none

/-- What a dialogue finds in the cache, or puts there, for its use. -/
def Deed.view? : Deed → Option (Option Credentials)
  | .looked cache now => some ((usable now cache).map (·.credentials))
  | .kept x => some (some x.credentials)
  | .said _ | .rested | .emptied _ => none

/-- The next step of a dialogue: what is left of it, the scene afterwards,
and what it did, if anything was left to do. -/
def advance (srv : Server σ) : Dialogue α → Scene σ → Dialogue α × Scene σ × List Deed
  | done a, s => (done a, s, [])
  | exchange r next, s =>
    let (reply, server) := srv.reply r s.server
    (next reply, { s with server, elapsed := s.elapsed + waited r reply }, [.said ⟨r, reply⟩])
  | pause millis next, s => (next, { s with elapsed := s.elapsed + millis }, [.rested])
  | consult next, s =>
    (next ((usable (srv.now s.server) s.cache).map (·.credentials)), s,
      [.looked s.cache (srv.now s.server)])
  | keep g next, s =>
    let x := g.session (srv.now s.server)
    (next, { s with cache := some x }, [.kept x])
  | forget next, s => (next, { s with cache := none }, [.emptied s.cache])

-- ============================================================== two at once

/-- One of two. -/
inductive Side where
  | left
  | right
deriving DecidableEq

/-- The other one. -/
def Side.other : Side → Side
  | .left => .right
  | .right => .left

/-- A deed of one of two. -/
abbrev Event := Side × Deed

/-- Two dialogues, as far as they are still to come, and what they share. -/
structure Duo (σ α β : Type) where
  left : Dialogue α
  right : Dialogue β
  scene : Scene σ

/-- Whose turn it is. -/
inductive Choice (σ : Type) where
  | turn (i : Side)
  /-- Time passes, or something happens at the server. -/
  | meanwhile (f : σ → σ)

namespace Duo

def step (srv : Server σ) : Choice σ → Duo σ α β → Duo σ α β
  | .turn .left, p =>
    let (left, scene, _) := p.left.advance srv p.scene
    { p with left, scene }
  | .turn .right, p =>
    let (right, scene, _) := p.right.advance srv p.scene
    { p with right, scene }
  | .meanwhile f, p => { p with scene := { p.scene with server := f p.scene.server } }

def see (srv : Server σ) : Choice σ → Duo σ α β → List Event
  | .turn .left, p => (p.left.advance srv p.scene).2.2.map (Prod.mk .left)
  | .turn .right, p => (p.right.advance srv p.scene).2.2.map (Prod.mk .right)
  | .meanwhile _, _ => []

/-- What is seen of a run of two. -/
def history (srv : Server σ) : List (Choice σ) → Duo σ α β → List Event :=
  along (step srv) (see srv)

/-- With turns for one of the two only, it comes to what it comes to alone. -/
theorem alone (d : Dialogue α) (e : Dialogue β) (s : Scene σ) :
    ∃ n, go (step srv) (List.replicate n (.turn .left)) ⟨d, e, s⟩
      = ⟨.done (d.run srv s).1, e, (d.run srv s).2⟩ := by
  induction d generalizing s with
  | done a => exact ⟨0, rfl⟩
  | exchange r next ih =>
    obtain ⟨n, hn⟩ := ih _ _
    exact ⟨n + 1, hn⟩
  | pause millis next ih =>
    obtain ⟨n, hn⟩ := ih _
    exact ⟨n + 1, hn⟩
  | consult next ih =>
    obtain ⟨n, hn⟩ := ih _ s
    exact ⟨n + 1, hn⟩
  | keep g next ih =>
    obtain ⟨n, hn⟩ := ih _
    exact ⟨n + 1, hn⟩
  | forget next ih =>
    obtain ⟨n, hn⟩ := ih _
    exact ⟨n + 1, hn⟩

end Duo

-- ============================================================ one dialogue

/-- The dialogue empties the cache only where that is due: right after a
request that was refused and carried what it knows to be in the cache, where
`view` is what it knows, if anything. At the end `post` holds of the result
and of what is known and due then. -/
def Minds (post : α → Option (Option Credentials) → Bool → Prop) :
    Dialogue α → Option (Option Credentials) → Bool → Prop
  | done a, view, due => post a view due
  | exchange r next, view, _ =>
    ∀ reply, (next reply).Minds post view (view == some r.credentials && reply.isRefusal)
  | pause _ next, view, _ => next.Minds post view false
  | consult next, _, _ => ∀ c, (next c).Minds post (some c) false
  | keep g next, _, _ => next.Minds post (some (some g.credentials)) false
  | forget next, _, due => due = true ∧ next.Minds post none false

theorem Minds.bind {m : α → Option (Option Credentials) → Bool → Prop}
    {post : β → Option (Option Credentials) → Bool → Prop} {d : Dialogue α} {f : α → Dialogue β}
    {view : Option (Option Credentials)} {due : Bool} (hd : d.Minds m view due)
    (hf : ∀ a view due, m a view due → (f a).Minds post view due) :
    (d.bind f).Minds post view due := by
  induction d generalizing view due with
  | done a => exact hf _ _ _ hd
  | exchange r next ih => exact fun reply => ih reply (hd reply)
  | pause millis next ih => exact ih hd
  | consult next ih => exact fun c => ih c (hd c)
  | keep g next ih => exact ih hd
  | forget next ih => exact ⟨hd.1, ih hd.2⟩

-- ============================================================ in company

/-- Since one of the two had to do with the cache, in `touch`, it has not
again, and what is in the cache now was there at that time or comes from the
other. -/
structure Since (i : Side) (touch : Deed) (since : List Event) (cache : Option Session) : Prop where
  idle : ∀ e ∈ since, e.1 = i → e.2.isAccess = false
  store : ∀ c, cache = some c → touch.content? = some c ∨ (i.other, .kept c) ∈ since

/-- The last deed of one of the two was a request that was refused and
carried this login, or none. -/
def Rejected (i : Side) (carried : Option Credentials) (since : List Event) : Prop :=
  ∃ early x late, since = early ++ (i, .said x) :: late ∧ (∀ e ∈ late, e.1 ≠ i) ∧
    x.request.credentials = carried ∧ x.reply.isRefusal = true

/-- What one of the two believes is borne out by the events so far. -/
def Recalls (i : Side) (h : List Event) (cache : Option Session) :
    Option (Option Credentials) → Bool → Prop
  | none, due => due = false
  | some view, due => ∃ early touch since, h = early ++ (i, touch) :: since ∧
    touch.view? = some view ∧ Since i touch since cache ∧ (due = true → Rejected i view since)

variable {i : Side} {h : List Event} {cache : Option Session}
  {view : Option (Option Credentials)} {due : Bool}

/-- Nothing is believed in the beginning. -/
theorem Recalls.nil (i : Side) (h : List Event) (cache : Option Session) :
    Recalls i h cache none false := rfl

/-- One more event leaves what is believed borne out: it is no access by the
one who believes it, what is in the cache now was there or comes from the
other just now, and where the cache may be emptied now it might be before, or
the event is a refusal. -/
theorem Recalls.extend {e : Event} {cache' : Option Session} {due' : Bool}
    (hr : Recalls i h cache view due) (hidle : e.1 = i → e.2.isAccess = false)
    (hcache : ∀ c, cache' = some c → cache = some c ∨ e = (i.other, .kept c))
    (hdue : due' = true → (due = true ∧ e.1 ≠ i) ∨
      ∃ x, e = (i, .said x) ∧ view = some x.request.credentials ∧ x.reply.isRefusal = true) :
    Recalls i (h ++ [e]) cache' view due' := by
  cases view with
  | none =>
    cases due' with
    | false => rfl
    | true =>
      rcases hdue rfl with ⟨hdue, -⟩ | ⟨x, -, hview, -⟩
      · cases hdue.symm.trans hr
      · cases hview
  | some view =>
    obtain ⟨early, touch, since, rfl, htouch, hsince, hrejected⟩ := hr
    refine ⟨early, touch, since ++ [e], by simp, htouch, ⟨?_, ?_⟩, fun ht => ?_⟩
    · intro e' he hi
      rcases List.mem_append.mp he with he | he
      · exact hsince.idle e' he hi
      · rw [List.mem_singleton.mp he] at hi ⊢
        exact hidle hi
    · intro c hc
      rcases hcache c hc with hc | rfl
      · rcases hsince.store c hc with hcontent | hkept
        · exact .inl hcontent
        · exact .inr (List.mem_append_left _ hkept)
      · exact .inr (List.mem_append_right _ (List.mem_singleton_self _))
    · rcases hdue ht with ⟨hdue, hother⟩ | ⟨x, rfl, hview, hno⟩
      · obtain ⟨before, x, late, rfl, hlate, hrest⟩ := hrejected hdue
        refine ⟨before, x, late ++ [e], by simp, fun e' he => ?_, hrest⟩
        rcases List.mem_append.mp he with he | he
        · exact hlate e' he
        · rw [List.mem_singleton.mp he]
          exact hother
      · exact ⟨since, x, [], rfl, nofun, (Option.some.inj hview).symm, hno⟩

/-- A deed that shows what is in the cache. -/
theorem Recalls.touch {deed : Deed} {found : Option Credentials}
    (hview : deed.view? = some found) (hcontent : deed.content? = cache) :
    Recalls i (h ++ [(i, deed)]) cache (some found) false :=
  ⟨h, deed, [], rfl, hview, ⟨nofun, fun _ hc => .inl (hcontent.trans hc)⟩, nofun⟩

/-- What a dialogue does itself bears out what it believes. -/
theorem Recalls.own {post : α → Option (Option Credentials) → Bool → Prop} {d : Dialogue α}
    {s : Scene σ} (hd : d.Minds post view due) (hr : Recalls i h s.cache view due) :
    ∃ view due, (d.advance srv s).1.Minds post view due ∧
      Recalls i (h ++ (d.advance srv s).2.2.map (Prod.mk i)) (d.advance srv s).2.1.cache view due := by
  cases d with
  | done a =>
    refine ⟨view, due, hd, ?_⟩
    show Recalls i (h ++ []) s.cache view due
    rw [List.append_nil]
    exact hr
  | exchange r next =>
    refine ⟨view, _, hd (srv.reply r s.server).1, hr.extend (fun _ => rfl) (fun _ => .inl) ?_⟩
    intro hdue
    obtain ⟨hview, hno⟩ := Bool.and_eq_true_iff.mp hdue
    exact .inr ⟨_, rfl, eq_of_beq hview, hno⟩
  | pause millis next => exact ⟨view, false, hd, hr.extend (fun _ => rfl) (fun _ => .inl) nofun⟩
  | consult next => exact ⟨_, false, hd _, .touch rfl rfl⟩
  | keep g next => exact ⟨_, false, hd, .touch rfl rfl⟩
  | forget next => exact ⟨none, false, hd.2, .nil ..⟩

theorem Side.other_ne (i : Side) : i.other ≠ i := by
  cases i <;> nofun

/-- What the other does leaves it borne out. -/
theorem Recalls.others (d : Dialogue α) {s : Scene σ} (hr : Recalls i h s.cache view due) :
    Recalls i (h ++ (d.advance srv s).2.2.map (Prod.mk i.other)) (d.advance srv s).2.1.cache
      view due := by
  have hdeed {deed : Deed} {cache' : Option Session}
      (hcache : ∀ c, cache' = some c → s.cache = some c ∨ deed = .kept c) :
      Recalls i (h ++ [(i.other, deed)]) cache' view due := by
    refine hr.extend (fun hi => absurd hi i.other_ne) ?_ fun hdue => .inl ⟨hdue, i.other_ne⟩
    intro c hc
    rcases hcache c hc with hc | rfl
    · exact .inl hc
    · exact .inr rfl
  cases d with
  | done a =>
    show Recalls i (h ++ []) s.cache view due
    rw [List.append_nil]
    exact hr
  | exchange r next => exact hdeed fun _ => .inl
  | pause millis next => exact hdeed fun _ => .inl
  | consult next => exact hdeed fun _ => .inl
  | keep g next =>
    refine hdeed fun c hc => .inr ?_
    cases hc
    rfl
  | forget next => exact hdeed nofun

/-- A dialogue that minds its business in these events. -/
def Sound (i : Side) (h : List Event) (cache : Option Session) (d : Dialogue α) : Prop :=
  ∃ view due, d.Minds (fun _ _ _ => True) view due ∧ Recalls i h cache view due

/-- A session that one of the two has thrown away: it knew of the cache
from `touch`, the request it made with that was refused, and the session was
there at `touch` or has come from the other since. -/
def Removed (i : Side) (h : List Event) (c : Session) : Prop :=
  ∃ early touch since carried, h = early ++ (i, touch) :: since ∧ touch.view? = some carried ∧
    Since i touch since (some c) ∧ Rejected i carried since

theorem Sound.removed {d : Dialogue α} {s : Scene σ} {c : Session} (hd : Sound i h s.cache d)
    (hc : .emptied (some c) ∈ (d.advance srv s).2.2) : Removed i h c := by
  obtain ⟨view, due, hminds, hr⟩ := hd
  cases d with
  | forget next =>
    have hcache : s.cache = some c := (Deed.emptied.inj (List.mem_singleton.mp hc)).symm
    obtain ⟨rfl, -⟩ := hminds
    rw [hcache] at hr
    cases view with
    | none => cases hr
    | some carried =>
      obtain ⟨early, touch, since, hh, htouch, hsince, hdue⟩ := hr
      exact ⟨early, touch, since, carried, hh, htouch, hsince, hdue rfl⟩
  | done a => cases hc
  | exchange r next => cases List.mem_singleton.mp hc
  | pause millis next => cases List.mem_singleton.mp hc
  | consult next => cases List.mem_singleton.mp hc
  | keep g next => cases List.mem_singleton.mp hc

/-- Both mind their business. -/
structure Duo.Sound (h : List Event) (p : Duo σ α β) : Prop where
  left : Dialogue.Sound .left h p.scene.cache p.left
  right : Dialogue.Sound .right h p.scene.cache p.right

theorem Duo.Sound.step (srv : Server σ) {p : Duo σ α β} (hp : p.Sound h) (choice : Choice σ) :
    (p.step srv choice).Sound (h ++ p.see srv choice) := by
  obtain ⟨⟨view, due, hleft, hl⟩, ⟨view', due', hright, hr⟩⟩ := hp
  cases choice with
  | turn i =>
    cases i with
    | left => exact ⟨hl.own hleft, _, _, hright, hr.others p.left⟩
    | right => exact ⟨⟨_, _, hleft, hl.others p.right⟩, hr.own hright⟩
  | meanwhile f =>
    show Duo.Sound (h ++ []) _
    rw [List.append_nil]
    exact ⟨⟨view, due, hleft, hl⟩, view', due', hright, hr⟩

theorem Duo.Sound.removed {p : Duo σ α β} (hp : p.Sound h) {choice : Choice σ} {c : Session}
    (hc : (i, .emptied (some c)) ∈ p.see srv choice) : Removed i h c := by
  cases choice with
  | turn j =>
    cases j with
    | left =>
      obtain ⟨deed, hdeed, heq⟩ := List.mem_map.mp hc
      cases heq
      exact hp.left.removed hdeed
    | right =>
      obtain ⟨deed, hdeed, heq⟩ := List.mem_map.mp hc
      cases heq
      exact hp.right.removed hdeed
  | meanwhile f => cases hc

/-- A step is at most one event. -/
theorem Duo.see_cases (srv : Server σ) (p : Duo σ α β) (choice : Choice σ) :
    p.see srv choice = [] ∨ ∃ e, p.see srv choice = [e] := by
  have hdeeds {γ : Type} (j : Side) (d : Dialogue γ) (s : Scene σ) :
      (d.advance srv s).2.2.map (Prod.mk j) = [] ∨
        ∃ e, (d.advance srv s).2.2.map (Prod.mk j) = [e] := by
    cases d with
    | done a => exact .inl rfl
    | exchange r next => exact .inr ⟨_, rfl⟩
    | pause millis next => exact .inr ⟨_, rfl⟩
    | consult next => exact .inr ⟨_, rfl⟩
    | keep g next => exact .inr ⟨_, rfl⟩
    | forget next => exact .inr ⟨_, rfl⟩
  cases choice with
  | turn j =>
    cases j with
    | left => exact hdeeds .left p.left p.scene
    | right => exact hdeeds .right p.right p.scene
  | meanwhile f => exact .inl rfl

/-- Whatever session is lost in a run of two that mind their business. -/
theorem emptied_of_minds {p : Duo σ α β} (hp : p.Sound h) {choices : List (Choice σ)}
    {before after : List Event} {c : Session}
    (hrun : p.history srv choices = before ++ (i, .emptied (some c)) :: after) :
    Removed i (h ++ before) c := by
  induction choices generalizing p h before with
  | nil =>
    have hnil : before ++ (i, .emptied (some c)) :: after = [] := hrun.symm
    simp at hnil
  | cons choice rest ih =>
    have hstep := hp.step srv choice
    have hsplit : p.see srv choice ++ (p.step srv choice).history srv rest
        = before ++ (i, .emptied (some c)) :: after := hrun
    rcases p.see_cases srv choice with hsee | ⟨e, hsee⟩
    · rw [hsee, List.append_nil] at hstep
      rw [hsee, List.nil_append] at hsplit
      exact ih hstep hsplit
    · rw [hsee] at hstep hsplit
      cases before with
      | nil =>
        obtain ⟨rfl, -⟩ := List.cons.inj hsplit
        rw [List.append_nil]
        have hmem : (i, .emptied (some c)) ∈ p.see srv choice := by
          rw [hsee]
          exact List.mem_singleton_self _
        exact hp.removed hmem
      | cons e' before =>
        obtain ⟨rfl, hrest⟩ := List.cons.inj hsplit
        have hlater := ih hstep hrest
        rw [List.append_assoc] at hlater
        exact hlater

end HostTelemetry.Http.Dialogue
