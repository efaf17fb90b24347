/-
Where the plugin's session comes from and where it goes, as far as this can
be seen on the wire.

# The relation

The plugin has one place for a session. `Passes` says of one exchange what
it may do to what is held there: a login that is granted puts a session
there, a request that presents the held session and is refused takes it
away, and so does an action that was sent without one and refused. Nothing
else changes it, and nothing but the held session is ever presented. The
relation speaks of what was sent and answered alone, so it holds of any
server, whether or not it keeps its word.

# The plugin follows it

`Keeps` says of a dialogue that its exchanges lead from what was held before
to what is held afterwards. Each function of the plugin has one lemma, put
together from those of its steps by `keeps_bind`. In between a refusal and
what the plugin does about it the cache still holds what the relation has
given up. So a function that presents a session is described by its result
(`Presents`), and the next step settles it (`keeps_settle`).

# What follows

A session that is held at the end was granted by a login on the way, or was
held at the beginning; and since then it was presented without a refusal
(`Custody.origin`).
-/
import HostTelemetry.Proofs.PiHole.Wire

namespace HostTelemetry.PiHole

open Http (Credentials Dialogue Exchange Reply Request)
open Http.Dialogue (Ends Scene Server callRequest)
open Service (Fault Params Record Report)

variable {σ : Type} {srv : Server σ} {base : String}

-- ========================================================== the relation

/-- An exchange in a dialogue about the service at some base address. -/
structure Spoken extends Exchange where
  base : String

/-- The credentials that a login was granted. -/
def Spoken.granted? (x : Spoken) : Option Credentials :=
  if IsLogin x.base x.request then (grant? x.reply).map (·.credentials) else none

/-- The request is one that may need a session, and goes to the base
address. -/
def GoesTo (base : String) (r : Request) : Prop := IsSummary base r ∨ IsBlocking base r

/-- What one exchange does to the session that is held. -/
inductive Passes : Option Credentials → Spoken → Option Credentials → Prop where
  /-- No session is presented and none is granted. -/
  | plain {held : Option Credentials} {x : Spoken} (hc : x.request.credentials = none)
      (hg : x.granted? = none) : Passes held x held
  /-- A login is granted. -/
  | granted {held : Option Credentials} {x : Spoken} {c : Credentials}
      (hc : x.request.credentials = none) (hg : x.granted? = some c) : Passes held x (some c)
  /-- The held session is presented. -/
  | accepted {x : Spoken} {c : Credentials} (hc : x.request.credentials = some c)
      (hr : GoesTo x.base x.request) (hok : x.reply.isRefusal = false) : Passes (some c) x (some c)
  /-- The held session is presented and refused. -/
  | rejected {x : Spoken} {c : Credentials} (hc : x.request.credentials = some c)
      (hr : GoesTo x.base x.request) (hno : x.reply.isRefusal = true) : Passes (some c) x none
  /-- An action without a session is refused. -/
  | shut {held : Option Credentials} {x : Spoken} (hc : x.request.credentials = none)
      (hr : IsBlocking x.base x.request) (hno : x.reply.isRefusal = true) : Passes held x none

/-- What exchanges do to the session that is held, one after the other. -/
inductive Custody : Option Credentials → List Spoken → Option Credentials → Prop where
  | nil {held : Option Credentials} : Custody held [] held
  | cons {held held' held'' : Option Credentials} {x : Spoken} {log : List Spoken}
      (hx : Passes held x held') (hlog : Custody held' log held'') : Custody held (x :: log) held''

namespace Custody

variable {held held' held'' : Option Credentials} {x : Spoken} {log log' : List Spoken}
  {c : Credentials}

theorem single (hx : Passes held x held') : Custody held [x] held' := .cons hx .nil

theorem append (h : Custody held log held') (h' : Custody held' log' held'') :
    Custody held (log ++ log') held'' := by
  induction h with
  | nil => exact h'
  | cons hx _ ih => exact .cons hx (ih h')

/-- A log can be cut anywhere. -/
theorem split (h : Custody held (log ++ log') held'') :
    ∃ held', Custody held log held' ∧ Custody held' log' held'' := by
  induction log generalizing held with
  | nil => exact ⟨held, .nil, h⟩
  | cons x rest ih =>
    cases h with
    | cons hx hlog =>
      obtain ⟨held', hrest, hlog'⟩ := ih hlog
      exact ⟨held', .cons hx hrest, hlog'⟩

/-- What is presented is what is held, and it goes where the dialogue is
about. -/
theorem presented (h : Custody held (x :: log) held') (hc : x.request.credentials = some c) :
    held = some c ∧ GoesTo x.base x.request := by
  cases h with
  | cons hx hlog =>
    cases hx with
    | plain hnone hg => cases hnone.symm.trans hc
    | granted hnone hg => cases hnone.symm.trans hc
    | accepted hc' hr hok => exact ⟨hc'.symm.trans hc, hr⟩
    | rejected hc' hr hno => exact ⟨hc'.symm.trans hc, hr⟩
    | shut hnone hr hno => cases hnone.symm.trans hc

/-- Nothing was granted, and whatever was presented was this session, which
was not refused. -/
def Untouched (c : Credentials) (log : List Spoken) : Prop :=
  ∀ y ∈ log, y.granted? = none ∧
    ∀ c', y.request.credentials = some c' → c' = c ∧ y.reply.isRefusal = false

theorem Untouched.cons (hg : x.granted? = none)
    (hc : ∀ c', x.request.credentials = some c' → c' = c ∧ x.reply.isRefusal = false)
    (h : Untouched c log) : Untouched c (x :: log) := by
  intro y hy
  rcases List.mem_cons.mp hy with rfl | hy
  · exact ⟨hg, hc⟩
  · exact h y hy

/-- A request that presents a session is no login, so it is granted none. -/
theorem granted?_of_goesTo (hr : GoesTo x.base x.request) : x.granted? = none := by
  have hlogin : ¬ IsLogin x.base x.request := by
    rcases hr with hr | hr
    · exact not_isLogin_of_isSummary hr
    · exact not_isLogin_of_isBlocking hr
  exact if_neg hlogin

/-- Where a session that is held at the end comes from. -/
theorem origin (h : Custody held log (some c)) :
    (held = some c ∧ Untouched c log) ∨
      ∃ before login since, log = before ++ login :: since ∧ login.granted? = some c ∧
        Untouched c since := by
  induction log generalizing held with
  | nil =>
    cases h with
    | nil => exact .inl ⟨rfl, nofun⟩
  | cons x rest ih =>
    cases h with
    | cons hx hlog =>
      rcases ih hlog with ⟨rfl, hquiet⟩ | ⟨before, login, since, rfl, hlogin, hquiet⟩
      · -- nothing was granted after `x`, so what `x` leaves is what is held at the end
        cases hx with
        | plain hc hg => exact .inl ⟨rfl, hquiet.cons hg fun c' hc' => nomatch hc.symm.trans hc'⟩
        | granted hc hg => exact .inr ⟨[], x, rest, rfl, hg, hquiet⟩
        | accepted hc hr hok =>
          refine .inl ⟨rfl, hquiet.cons (granted?_of_goesTo hr) fun c' hc' => ⟨?_, hok⟩⟩
          exact Option.some.inj (hc'.symm.trans hc)
      · exact .inr ⟨x :: before, login, since, rfl, hlogin, hquiet⟩

end Custody

-- ================================================================ scenes

/-- The session that is held, whether or not it can still be used. -/
def held (s : Scene σ) : Option Credentials := s.cache.map (·.credentials)

/-- The exchanges of a dialogue about the service at a base address. -/
def spoken (base : String) (log : List Exchange) : List Spoken :=
  log.map fun x => { x with base }

theorem spoken_append (base : String) (log log' : List Exchange) :
    spoken base (log ++ log') = spoken base log ++ spoken base log' :=
  List.map_append

/-- A look at the cache finds nothing, or what is held. -/
theorem found_cases (s : Scene σ) :
    (Http.usable (srv.now s.server) s.cache).map (·.credentials) = none ∨
      (Http.usable (srv.now s.server) s.cache).map (·.credentials) = held s := by
  unfold Http.usable held
  cases s.cache with
  | none => exact .inl rfl
  | some x =>
    cases hx : x.isValid (srv.now s.server) with
    | false => exact .inl (by simp [hx])
    | true => exact .inr (by rw [Option.filter_some_pos hx])

/-- The exchanges lead from what was held before to what is held now. -/
def Kept (base : String) (s s' : Scene σ) (log : List Exchange) : Prop :=
  Custody (held s) (spoken base log) (held s')

theorem Kept.append {s s' s'' : Scene σ} {log log' : List Exchange} (h : Kept base s s' log)
    (h' : Kept base s' s'' log') : Kept base s s'' (log ++ log') := by
  unfold Kept
  rw [spoken_append]
  exact Custody.append h h'

/-- The exchanges of the dialogue lead from what was held before to what is
held afterwards. -/
def Keeps {α : Type} (srv : Server σ) (base : String) (d : Dialogue α) (s : Scene σ) : Prop :=
  Ends srv d s fun _ s' log => Kept base s s' log

/-- The dialogue presents what is held, if anything, and leaves the cache as
it is; where its result is a refusal, its exchanges lead to nothing. -/
def Presents {α : Type} (srv : Server σ) (base : String) (d : Dialogue (Except Fault α))
    (s : Scene σ) : Prop :=
  Ends srv d s fun a s' log => s'.cache = s.cache ∧
    Custody (held s) (spoken base log) (if refused a then none else held s)

-- ======================================================== single requests

/-- A request that presents nothing and is no login changes nothing. -/
theorem custody_plain {r : Request} {reply : Reply} {held : Option Credentials}
    (hc : r.credentials = none) (hl : ¬ IsLogin base r) :
    Custody held (spoken base [⟨r, reply⟩]) held :=
  .single (.plain hc (if_neg hl))

/-- Asking for a document without a session. -/
theorem keeps_document {α : Type} {url reason : String} {read? : Json → Option α} (s : Scene σ) :
    Keeps srv base ((Http.getJson Json.document? url).bind fun a =>
      .done (a.bind fun j => expect url reason (read? j))) s := by
  have hget : ¬ IsLogin base (callRequest .get url none none) := fun hl => nomatch hl.1
  exact ends_document fun _ _ _ _ => custody_plain rfl hget

/-- A request that presents the held session. -/
theorem presents_call {α : Type} {method : Http.Method} {url : String} {body : Option Json}
    {c : Credentials} {f : Except Fault Bytes → Except Fault α} {s : Scene σ}
    (hheld : held s = some c) (hr : GoesTo base (callRequest method url (some c) body))
    (hf : ∀ reply : Reply, refused (f (reply.content url)) = reply.isRefusal) :
    Presents srv base
      ((Http.call method url (some c) body).bind fun a => .done (f a)) s := by
  unfold Presents
  rw [hheld]
  cases hc : c.canBeSent with
  | true =>
    refine ends_call_map hc fun reply server elapsed _ => ⟨rfl, ?_⟩
    rw [hf]
    cases hno : reply.isRefusal with
    | true => exact .single (.rejected rfl hr hno)
    | false => exact .single (.accepted rfl hr hno)
  | false =>
    -- nothing is sent, and the result is that of a closed connection
    have hclosed : refused (f (.error (.request url))) = false := hf .closed
    have hcall : Ends srv (Http.call method url (some c) body) s fun a s' log =>
        a = .error (.request url) ∧ s' = s ∧ log = [] :=
      Ends.call_unsendable hc ⟨rfl, rfl, rfl⟩
    refine Ends.bind hcall ?_
    rintro a s' log ⟨rfl, rfl, rfl⟩
    refine Ends.done ⟨rfl, ?_⟩
    rw [hclosed]
    exact .nil

/-- Asking for the summary with the held session. -/
theorem presents_fetchSummary {c : Credentials} {s : Scene σ} (hheld : held s = some c) :
    Presents srv base (fetchSummary base (some c)) s := by
  refine presents_call hheld (.inl ⟨rfl, rfl⟩) fun reply => ?_
  rw [refused_bind, refused_content]
  intro body
  rw [refused_bind, refused_decodeBody]
  exact fun j => refused_expect ..

/-- Asking for the summary without a session. -/
theorem keeps_fetchSummary (s : Scene σ) : Keeps srv base (fetchSummary base none) s :=
  ends_fetchSummary rfl fun _ _ _ _ hr hc _ => custody_plain hc (not_isLogin_of_isSummary hr)

/-- Telling the server to block or not to block, with what was found in the
cache. A refusal counts for what is held even if it was not presented. -/
theorem presents_postBlocking {found : Option Credentials} {body : Json} {s : Scene σ}
    (hfound : found = none ∨ found = held s) :
    Presents srv base (postBlocking base body found) s := by
  cases found with
  | some c =>
    have hheld : held s = some c := (hfound.resolve_left nofun).symm
    refine presents_call hheld (.inr ⟨rfl, rfl⟩) fun reply => ?_
    rw [refused_map, refused_content]
  | none =>
    refine ends_postBlocking rfl fun r reply server elapsed hr hc _ => ⟨rfl, ?_⟩
    rw [blockingResult, refused_map, refused_content]
    cases hno : reply.isRefusal with
    | true => exact .single (.shut hc hr hno)
    | false => exact custody_plain hc (not_isLogin_of_isBlocking hr)

/-- A login: what is granted is held from then on. -/
theorem keeps_authenticate {password : String} (s : Scene σ) :
    Ends srv (authenticate base password) s fun a s' log =>
      Kept base s s' log ∧ ∀ c, a = .ok c → held s' = some c := by
  have hlogin : IsLogin base (loginRequest base password) := ⟨rfl, rfl⟩
  refine ends_loginRequest ?_ ?_
  · intro reply server elapsed g _ hg
    refine ⟨.single (.granted rfl ?_), ?_⟩
    · show (if IsLogin base (loginRequest base password) then _ else _) = _
      rw [if_pos hlogin, grant?_of_loginResult hg]
      rfl
    · intro c hc
      cases hc
      rfl
  · intro reply server elapsed e _ he
    refine ⟨.single (.plain rfl ?_), nofun⟩
    show (if IsLogin base (loginRequest base password) then _ else _) = _
    rw [if_pos hlogin]
    cases hg : grant? reply with
    | none => rfl
    | some g =>
      rw [loginResult_of_grant? hg] at he
      cases he

-- ==================================================== composed dialogues

theorem keeps_done {α : Type} (a : α) (s : Scene σ) : Keeps srv base (.done a) s :=
  Ends.done .nil

/-- What is kept up to some point is kept on the way from there. -/
theorem Keeps.after {α : Type} {d : Dialogue α} {s s' : Scene σ} {log : List Exchange}
    (hd : Keeps srv base d s') (h : Kept base s s' log) :
    Ends srv d s' fun _ s'' log' => Kept base s s'' (log ++ log') :=
  hd.imp fun _ _ _ h' => h.append h'

/-- One dialogue after the other. -/
theorem keeps_bind {α β : Type} {d : Dialogue α} {f : α → Dialogue β} {s : Scene σ}
    (hd : Keeps srv base d s) (hf : ∀ a s', Keeps srv base (f a) s') :
    Keeps srv base (d.bind f) s :=
  Ends.bind hd fun a s' _ h => (hf a s').after h

/-- A request that presents what is held, and what the plugin does about its
result: it passes it on, or forgets what was refused. -/
theorem keeps_settle {α : Type} {d again : Dialogue (Except Fault α)}
    {f : Except Fault α → Dialogue (Except Fault α)} {s : Scene σ}
    (hok : ∀ a, f (.ok a) = .done (.ok a))
    (herror : ∀ e, f (.error e) = if e.isUnauthorized then .forget again else .done (.error e))
    (hd : Presents srv base d s) (hagain : ∀ s', Keeps srv base again s') :
    Keeps srv base (d.bind f) s := by
  refine Ends.bind hd ?_
  rintro a s' log ⟨hcache, hlog⟩
  have hkept (ha : refused a = false) : Kept base s s' log := by
    rw [ha] at hlog
    unfold Kept held
    rw [hcache]
    exact hlog
  cases a with
  | ok x =>
    rw [hok]
    exact (keeps_done _ s').after (hkept rfl)
  | error e =>
    rw [herror]
    cases he : e.isUnauthorized with
    | false => exact (keeps_done _ s').after (hkept he)
    | true =>
      -- the relation has given the session up, and now the cache does
      rw [show refused (.error e : Except Fault α) = true from he] at hlog
      have hgone : Kept base s { s' with cache := none } log := hlog
      exact Ends.forget ((hagain _).after hgone)

/-- What is done with a fresh login, or without one where it failed. -/
theorem keeps_withLogin {β : Type} {f : Except Fault Credentials → Dialogue β}
    {password : String} (s : Scene σ) (hfailed : ∀ e s', Keeps srv base (f (.error e)) s')
    (hgranted : ∀ c s', held s' = some c → Keeps srv base (f (.ok c)) s') :
    Keeps srv base ((authenticate base password).bind f) s := by
  refine Ends.bind (keeps_authenticate s) ?_
  rintro a s' log ⟨hlogin, hheld⟩
  cases a with
  | error e => exact (hfailed e s').after hlogin
  | ok c => exact (hgranted c s' (hheld c rfl)).after hlogin

-- ================================================= collections, actions

theorem keeps_collectFresh (password : Option String) (s : Scene σ) :
    Keeps srv base (collectFresh base password) s := by
  cases password with
  | none => exact keeps_done _ s
  | some password =>
    refine keeps_withLogin s (fun _ => keeps_done _) fun c s' hheld => ?_
    exact keeps_settle (fun _ => rfl) (fun _ => rfl) (presents_fetchSummary hheld) (keeps_done _)

theorem keeps_blockFresh (password : Option String) (body : Json) (s : Scene σ) :
    Keeps srv base (blockFresh base body password) s := by
  cases password with
  | none => exact keeps_done _ s
  | some password =>
    refine keeps_withLogin s (fun _ => keeps_done _) fun c s' hheld => ?_
    exact keeps_settle (fun _ => rfl) (fun _ => rfl) (presents_postBlocking (.inr hheld.symm))
      (keeps_done _)

theorem keeps_collectCached {password : Option String} {found : Option Credentials} {s : Scene σ}
    (hfound : found = none ∨ found = held s) :
    Keeps srv base (collectCached base password found) s := by
  cases found with
  | none => exact keeps_collectFresh password s
  | some c =>
    have hheld : held s = some c := (hfound.resolve_left nofun).symm
    exact keeps_settle (fun _ => rfl) (fun _ => rfl) (presents_fetchSummary hheld)
      (keeps_collectFresh password)

theorem keeps_collectV6 (password : Option String) (s : Scene σ) :
    Keeps srv base (collectV6 base password) s := by
  refine keeps_bind (keeps_fetchSummary s) fun a s' => ?_
  cases a with
  | ok report => exact keeps_done _ s'
  | error e =>
    show Keeps srv base (if e.isUnauthorized then _ else _) s'
    cases e.isUnauthorized with
    | false => exact keeps_done _ s'
    | true => exact Ends.consult (keeps_collectCached (found_cases s'))

/-- The public state is asked for without a session, or not at all. -/
theorem keeps_collectPublic (e : Fault) (s : Scene σ) :
    Keeps srv base (collectPublic base e) s := by
  have hpublic {f : Except Fault String → Dialogue (Except Fault Report)}
      (hf : ∀ a, ∃ b, f a = .done b) : Keeps srv base ((fetchBlocking base).bind f) s := by
    refine keeps_bind (keeps_document s) fun a s' => ?_
    obtain ⟨b, hb⟩ := hf a
    rw [hb]
    exact keeps_done b s'
  cases e with
  | authRequired => exact hpublic fun _ => ⟨_, rfl⟩
  | authFailed reason => exact keeps_done _ s
  | _ => exact hpublic fun a => by cases a <;> exact ⟨_, rfl⟩

/-- A collection, whatever it comes to. -/
theorem keeps_collect (r : Record) (s : Scene σ) : Keeps srv r.baseUrl (collect r) s := by
  have hold : Keeps srv r.baseUrl (fetchV5 r.baseUrl) s := keeps_document s
  refine keeps_bind hold fun a s' => ?_
  cases a with
  | ok report => exact keeps_done _ s'
  | error _ =>
    refine keeps_bind (keeps_collectV6 _ s') fun a s'' => ?_
    cases a with
    | ok report => exact keeps_done _ s''
    | error e => exact keeps_collectPublic e s''

theorem keeps_block (password : Option String) (body : Json) (s : Scene σ) :
    Keeps srv base (block base password body) s :=
  Ends.consult (keeps_settle (fun _ => rfl) (fun _ => rfl) (presents_postBlocking (found_cases s))
    (keeps_blockFresh password body))

/-- An action, whatever it comes to. One that the service does not have says
nothing at all. -/
theorem keeps_act (r : Record) (action : String) (params : Params) (s : Scene σ) :
    Keeps srv r.baseUrl (act r action params) s := by
  unfold act
  split
  · exact keeps_done _ s
  split
  · exact keeps_done _ s
  cases SetBlocking.ofParams? params with
  | none => exact keeps_done _ s
  | some asked => exact keeps_bind (keeps_block _ asked.body s) fun _ => keeps_done _

end HostTelemetry.PiHole
