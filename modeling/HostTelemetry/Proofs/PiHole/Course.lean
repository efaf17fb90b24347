/-
The ways that a collection and an action can go, said once.

# Errands

What a collection and an action share is something that is asked of the
server and may need a login: the summary, or a change of the blocking. An
`Errand` is such a thing. It is tried with a session or without one
(`Tried`), and where that is refused, with a fresh login (`Renewed`,
`Pursued`). A fresh login helps, fails, or does not help; there is no
fourth way, and no second login.

# Courses

A course is what was exchanged, together with the result. There is one
relation for each function of the plugin, and one lemma which says that
every run of the function is such a course, against any server. Which
requests go out, in which order and how often, and which result belongs to
which answers is then a case analysis over courses. Nothing that comes
later runs a dialogue again.
-/
import HostTelemetry.Proofs.PiHole.Wire

namespace HostTelemetry.PiHole

open Http (Credentials Dialogue Exchange Grant Reply Request)
open Http.Dialogue (Ends Scene Server callRequest)
open Service (Fault Record Report)

variable {σ α : Type} {srv : Server σ} {base : String}

-- ============================================================== requests

def oldRequest (base : String) : Request :=
  callRequest .get (base ++ "/admin/api.php?summaryRaw") none none

/-- The request for the public state of the blocking. -/
def stateRequest (base : String) : Request :=
  callRequest .get (base ++ "/api/dns/blocking") none none

/-- Something that is asked of a server and may need a login. -/
structure Errand (α : Type) where
  request : Option Credentials → Request
  result : Reply → Except Fault α
  /-- What is said when a fresh login does not help. -/
  complaint : String
  credentials_request : ∀ c, (request c).credentials = c
  refused_result : ∀ reply, refused (result reply) = reply.isRefusal

theorem refused_documentResult {url reason : String} {read? : Json → Option α} (reply : Reply) :
    refused (documentResult url reason read? reply) = reply.isRefusal := by
  unfold documentResult
  rw [refused_bind fun j => refused_expect url reason (read? j),
    refused_bind fun body => refused_decodeBody Json.document? url body, refused_content]

def summaryErrand (base : String) : Errand Report where
  request c := callRequest .get (base ++ "/api/stats/summary") c none
  result := summaryResult base
  complaint := "new session rejected by the summary endpoint"
  credentials_request _ := rfl
  refused_result := refused_documentResult

def blockingErrand (base : String) (body : Json) : Errand Unit where
  request c := callRequest .post (base ++ "/api/dns/blocking") c (some body)
  result := blockingResult base
  complaint := "new session rejected by the blocking endpoint"
  credentials_request _ := rfl
  refused_result reply := by
    unfold blockingResult
    rw [refused_map, refused_content]

-- =============================================================== courses

/-- An errand is tried once. With a login that cannot be presented nothing
is sent. -/
inductive Tried (e : Errand α) (c : Option Credentials) :
    List Exchange → Except Fault α → Prop where
  | sent {reply : Reply} {a : Except Fault α} (hc : c.all Credentials.canBeSent = true)
      (ha : e.result reply = a) : Tried e c [⟨e.request c, reply⟩] a
  | unsent (hc : c.all Credentials.canBeSent = false) :
      Tried e c [] (.error (.request (e.request c).url))

/-- An errand is tried with a fresh login. -/
inductive Renewed (e : Errand α) (base : String) :
    Option String → List Exchange → Except Fault α → Prop where
  | unset : Renewed e base none [] (.error .authRequired)
  | failed {password : String} {reply : Reply} {fault : Fault}
      (hl : loginResult base reply = .error fault) :
      Renewed e base (some password) [⟨loginRequest base password, reply⟩] (.error fault)
  | helped {password : String} {reply : Reply} {g : Grant} {log : List Exchange}
      {a : Except Fault α} (hl : loginResult base reply = .ok g)
      (ht : Tried e (some g.credentials) log a) (ha : refused a = false) :
      Renewed e base (some password) (⟨loginRequest base password, reply⟩ :: log) a
  | vain {password : String} {reply reply' : Reply} {g : Grant}
      (hl : loginResult base reply = .ok g) (hno : reply'.isRefusal = true) :
      Renewed e base (some password)
        [⟨loginRequest base password, reply⟩, ⟨e.request (some g.credentials), reply'⟩]
        (.error (.authFailed e.complaint))

/-- An errand is tried, and where that is refused, with a fresh login. -/
inductive Pursued (e : Errand α) (base : String) (password : Option String)
    (c : Option Credentials) : List Exchange → Except Fault α → Prop where
  | settled {log : List Exchange} {a : Except Fault α} (ht : Tried e c log a)
      (ha : refused a = false) : Pursued e base password c log a
  | refused {reply : Reply} {log : List Exchange} {a : Except Fault α}
      (hc : c.all Credentials.canBeSent = true) (hno : reply.isRefusal = true)
      (hr : Renewed e base password log a) :
      Pursued e base password c (⟨e.request c, reply⟩ :: log) a

/-- The summary of generation 6 is asked for, where `found` is the session
that is found in the cache. -/
inductive V6Course (base : String) (password : Option String) (found : Option Credentials) :
    List Exchange → Except Fault Report → Prop where
  | plain {log : List Exchange} {a : Except Fault Report} (ht : Tried (summaryErrand base) none log a)
      (ha : refused a = false) : V6Course base password found log a
  | lone {reply : Reply} {log : List Exchange} {a : Except Fault Report}
      (hno : reply.isRefusal = true) (hf : found = none)
      (hr : Renewed (summaryErrand base) base password log a) :
      V6Course base password found (⟨(summaryErrand base).request none, reply⟩ :: log) a
  | cached {reply : Reply} {c : Credentials} {log : List Exchange} {a : Except Fault Report}
      (hno : reply.isRefusal = true) (hf : found = some c)
      (hp : Pursued (summaryErrand base) base password (some c) log a) :
      V6Course base password found (⟨(summaryErrand base).request none, reply⟩ :: log) a

/-- The public state that a reply gives. -/
def publicState? (reply : Reply) : Option String :=
  (reply.reads Json.document?).bind blockingState?

/-- The fault does not say that a login is missing or failed. -/
def IsOrdinary (e : Fault) : Prop := e ≠ .authRequired ∧ ∀ reason, e ≠ .authFailed reason

/-- What a collection makes of a fault of generation 6. -/
inductive PublicCourse (base : String) : Fault → List Exchange → Except Fault Report → Prop where
  | locked {reply : Reply} : PublicCourse base .authRequired [⟨stateRequest base, reply⟩]
      (.ok (authRequiredReport (publicState? reply)))
  | passed {reason : String} :
      PublicCourse base (.authFailed reason) [] (.error (.authFailed reason))
  | replaced {e : Fault} {reply : Reply} {state : String} (he : IsOrdinary e)
      (hs : publicState? reply = some state) :
      PublicCourse base e [⟨stateRequest base, reply⟩] (.ok (blockingReport state))
  | kept {e : Fault} {reply : Reply} (he : IsOrdinary e) (hs : publicState? reply = none) :
      PublicCourse base e [⟨stateRequest base, reply⟩] (.error e)

/-- A collection, where `v6` is what the path of generation 6 comes to. -/
inductive Course (base : String) (password : Option String) (found : Option Credentials)
    (v6 : Except Fault Report) : List Exchange → Except Fault Report → Prop where
  | old {reply : Reply} {report : Report} (ho : oldSummary? reply = some report) :
      Course base password found v6 [⟨oldRequest base, reply⟩] (.ok report)
  | shown {reply : Reply} {report : Report} {log : List Exchange} (ho : oldSummary? reply = none)
      (hv : v6 = .ok report) (hc : V6Course base password found log (.ok report)) :
      Course base password found v6 (⟨oldRequest base, reply⟩ :: log) (.ok report)
  | failed {reply : Reply} {e : Fault} {log log' : List Exchange} {a : Except Fault Report}
      (ho : oldSummary? reply = none) (hv : v6 = .error e)
      (hc : V6Course base password found log (.error e)) (hp : PublicCourse base e log' a) :
      Course base password found v6 (⟨oldRequest base, reply⟩ :: (log ++ log')) a

-- ============================================== the functions keep to them

/-- The session that can be used now. -/
def sessionAt (srv : Server σ) (s : Scene σ) : Option Credentials :=
  (Http.usable (srv.now s.server) s.cache).map (·.credentials)

/-- Whatever sends an errand's request and works on the reply tries the
errand. -/
theorem tried_call {e : Errand α} {c : Option Credentials} {method : Http.Method} {url : String}
    {body : Option Json} {f : Except Fault Bytes → Except Fault α} {s : Scene σ}
    (hr : e.request c = callRequest method url c body)
    (hf : ∀ reply : Reply, f (reply.content url) = e.result reply)
    (hu : f (.error (.request url)) = .error (.request url)) :
    Ends srv ((Http.call method url c body).bind fun a => .done (f a)) s fun a _ log =>
      Tried e c log a := by
  cases hc : c.all Credentials.canBeSent with
  | true =>
    refine ends_call_map hc fun reply server elapsed _ => ?_
    rw [hf, ← hr]
    exact .sent hc rfl
  | false =>
    have hcall : Ends srv (Http.call method url c body) s fun a _ log =>
        a = .error (.request url) ∧ log = [] :=
      Ends.call_unsendable hc ⟨rfl, rfl⟩
    refine Ends.bind hcall ?_
    rintro a s' log ⟨rfl, rfl⟩
    refine Ends.done ?_
    have hurl : (e.request c).url = url := by rw [hr]; rfl
    rw [hu, ← hurl]
    exact .unsent hc

theorem tried_fetchSummary (c : Option Credentials) (s : Scene σ) :
    Ends srv (fetchSummary base c) s fun a _ log => Tried (summaryErrand base) c log a := by
  refine tried_call (e := summaryErrand base) rfl (fun reply => ?_) rfl
  show _ = documentResult (base ++ "/api/stats/summary") "missing queries object" v6Report? reply
  unfold documentResult
  cases reply.content (base ++ "/api/stats/summary") <;> rfl

theorem tried_postBlocking {body : Json} (c : Option Credentials) (s : Scene σ) :
    Ends srv (postBlocking base body c) s fun a _ log => Tried (blockingErrand base body) c log a :=
  tried_call (e := blockingErrand base body) rfl (fun _ => rfl) rfl

/-- A refused errand was sent. -/
theorem Tried.of_refused {e : Errand α} {c : Option Credentials} {log : List Exchange}
    {a : Except Fault α} (ht : Tried e c log a) (ha : refused a = true) :
    c.all Credentials.canBeSent = true ∧
      ∃ reply, log = [⟨e.request c, reply⟩] ∧ reply.isRefusal = true := by
  cases ht with
  | @sent reply _ hc hres =>
    refine ⟨hc, reply, rfl, ?_⟩
    rw [← e.refused_result, hres]
    exact ha
  | unsent hc => cases ha

/-- A login, the errand with what it grants, and what is made of a refusal
then. -/
theorem renewed_bind {e : Errand α} {d : Credentials → Dialogue (Except Fault α)}
    {f : Except Fault Credentials → Dialogue (Except Fault α)}
    {g : Except Fault α → Dialogue (Except Fault α)} {password : String} {s : Scene σ}
    (hfailed : ∀ x, f (.error x) = .done (.error x)) (hgranted : ∀ c, f (.ok c) = (d c).bind g)
    (hok : ∀ a, g (.ok a) = .done (.ok a))
    (herror : ∀ x, g (.error x) = if x.isUnauthorized then
      .forget (.done (.error (.authFailed e.complaint))) else .done (.error x))
    (hd : ∀ c s, Ends srv (d c) s fun a _ log => Tried e (some c) log a) :
    Ends srv ((authenticate base password).bind f) s fun a _ log =>
      Renewed e base (some password) log a := by
  have hlogin : Ends srv (authenticate base password) s fun a _ log =>
      ∃ reply, log = [⟨loginRequest base password, reply⟩] ∧
        a = (loginResult base reply).map (·.credentials) := by
    refine ends_loginRequest ?_ ?_
    · intro reply server elapsed g _ hg
      exact ⟨reply, rfl, by rw [hg]; rfl⟩
    · intro reply server elapsed x _ hx
      exact ⟨reply, rfl, by rw [hx]; rfl⟩
  refine Ends.bind hlogin ?_
  rintro a s' log ⟨reply, rfl, rfl⟩
  cases hl : loginResult base reply with
  | error x =>
    show Ends srv (f (.error x)) s' _
    rw [hfailed]
    exact Ends.done (.failed hl)
  | ok grant =>
    show Ends srv (f (.ok grant.credentials)) s' _
    rw [hgranted]
    refine Ends.bind (hd grant.credentials s') ?_
    intro a s'' log ht
    cases a with
    | ok x =>
      rw [hok]
      refine Ends.done ?_
      rw [List.append_nil]
      exact .helped hl ht rfl
    | error x =>
      rw [herror]
      cases hx : x.isUnauthorized with
      | false =>
        refine Ends.done ?_
        rw [List.append_nil]
        exact .helped hl ht hx
      | true =>
        obtain ⟨-, reply', rfl, hno⟩ := ht.of_refused hx
        exact Ends.forget (Ends.done (.vain hl hno))

theorem renewed_collectFresh (password : Option String) (s : Scene σ) :
    Ends srv (collectFresh base password) s fun a _ log =>
      Renewed (summaryErrand base) base password log a := by
  cases password with
  | none => exact Ends.done .unset
  | some password =>
    exact renewed_bind (fun _ => rfl) (fun _ => rfl) (fun _ => rfl) (fun _ => rfl)
      fun c => tried_fetchSummary (some c)

theorem renewed_blockFresh {body : Json} (password : Option String) (s : Scene σ) :
    Ends srv (blockFresh base body password) s fun a _ log =>
      Renewed (blockingErrand base body) base password log a := by
  cases password with
  | none => exact Ends.done .unset
  | some password =>
    exact renewed_bind (fun _ => rfl) (fun _ => rfl) (fun _ => rfl) (fun _ => rfl)
      fun c => tried_postBlocking (some c)

/-- An errand, and what is made of a refusal. -/
theorem pursued_bind {e : Errand α} {c : Option Credentials} {password : Option String}
    {d again : Dialogue (Except Fault α)} {f : Except Fault α → Dialogue (Except Fault α)}
    {s : Scene σ} (hok : ∀ a, f (.ok a) = .done (.ok a))
    (herror : ∀ x, f (.error x) = if x.isUnauthorized then .forget again else .done (.error x))
    (hd : Ends srv d s fun a _ log => Tried e c log a)
    (hagain : ∀ s', Ends srv again s' fun a _ log => Renewed e base password log a) :
    Ends srv (d.bind f) s fun a _ log => Pursued e base password c log a := by
  refine Ends.bind hd ?_
  intro a s' log ht
  cases a with
  | ok x =>
    rw [hok]
    refine Ends.done ?_
    rw [List.append_nil]
    exact .settled ht rfl
  | error x =>
    rw [herror]
    cases hx : x.isUnauthorized with
    | false =>
      refine Ends.done ?_
      rw [List.append_nil]
      exact .settled ht hx
    | true =>
      obtain ⟨hc, reply, rfl, hno⟩ := ht.of_refused hx
      exact Ends.forget ((hagain _).imp fun _ _ _ hr => .refused hc hno hr)

theorem pursued_block {body : Json} (password : Option String) (s : Scene σ) :
    Ends srv (block base password body) s fun a _ log =>
      Pursued (blockingErrand base body) base password (sessionAt srv s) log a :=
  Ends.consult (pursued_bind (fun _ => rfl) (fun _ => rfl) (tried_postBlocking _ s)
    (renewed_blockFresh password))

-- =========================================================== collections

/-- The scene after a dialogue. -/
def sceneAfter (srv : Server σ) (d : Dialogue α) (s : Scene σ) : Scene σ := (d.run srv s).2

theorem course_collectV6 (password : Option String) (s : Scene σ) :
    Ends srv (collectV6 base password) s fun a _ log =>
      V6Course base password (sessionAt srv (sceneAfter srv (fetchSummary base none) s)) log a := by
  have hplain : Ends srv (fetchSummary base none) s fun a s' log =>
      s' = sceneAfter srv (fetchSummary base none) s ∧ Tried (summaryErrand base) none log a :=
    ⟨rfl, tried_fetchSummary none s⟩
  refine Ends.bind hplain ?_
  rintro a s' log ⟨hs', ht⟩
  rw [← hs']
  cases a with
  | ok report =>
    refine Ends.done ?_
    rw [List.append_nil]
    exact .plain ht rfl
  | error x =>
    show Ends srv (if x.isUnauthorized then _ else _) s' _
    cases hx : x.isUnauthorized with
    | false =>
      refine Ends.done ?_
      rw [List.append_nil]
      exact .plain ht hx
    | true =>
      obtain ⟨-, reply, rfl, hno⟩ := ht.of_refused hx
      refine Ends.consult ?_
      show Ends srv (collectCached base password (sessionAt srv s')) s' _
      cases hf : sessionAt srv s' with
      | none => exact (renewed_collectFresh password s').imp fun _ _ _ hr => .lone hno rfl hr
      | some c =>
        refine Ends.imp (pursued_bind (fun _ => rfl) (fun _ => rfl) (tried_fetchSummary (some c) s')
          (renewed_collectFresh password)) fun _ _ _ hp => ?_
        exact .cached hno rfl hp

theorem course_collectPublic (e : Fault) (s : Scene σ) :
    Ends srv (collectPublic base e) s fun a _ log => PublicCourse base e log a := by
  -- what is made of the public state hangs on whether there is one
  have hstate {f : Except Fault String → Dialogue (Except Fault Report)}
      (hok : ∀ reply state, publicState? reply = some state → ∃ b, f (.ok state) = .done b ∧
        PublicCourse base e [⟨stateRequest base, reply⟩] b)
      (herror : ∀ reply x, publicState? reply = none → ∃ b, f (.error x) = .done b ∧
        PublicCourse base e [⟨stateRequest base, reply⟩] b) :
      Ends srv ((fetchBlocking base).bind f) s fun a _ log => PublicCourse base e log a := by
    have hasked : Ends srv (fetchBlocking base) s fun a _ log => ∃ reply,
        log = [⟨stateRequest base, reply⟩] ∧ a = documentResult (base ++ "/api/dns/blocking")
          "missing blocking state" blockingState? reply :=
      ends_document fun reply _ _ _ => ⟨reply, rfl, rfl⟩
    refine Ends.bind hasked ?_
    rintro a s' log ⟨reply, rfl, ha⟩
    cases a with
    | ok state =>
      obtain ⟨b, hb, hp⟩ := hok reply state (documentResult_eq_ok_iff.mp ha.symm)
      rw [hb]
      exact Ends.done hp
    | error x =>
      have hnone : publicState? reply = none := by
        cases hs : publicState? reply with
        | none => rfl
        | some state => cases ha.trans (documentResult_eq_ok_iff.mpr hs)
      obtain ⟨b, hb, hp⟩ := herror reply x hnone
      rw [hb]
      exact Ends.done hp
  cases e with
  | authFailed reason => exact Ends.done .passed
  | authRequired =>
    refine hstate (fun reply state hs => ⟨_, rfl, ?_⟩) (fun reply x hs => ⟨_, rfl, ?_⟩)
    · show PublicCourse base _ _ (.ok (authRequiredReport (some state)))
      rw [← hs]
      exact .locked
    · show PublicCourse base _ _ (.ok (authRequiredReport none))
      rw [← hs]
      exact .locked
  | _ =>
    exact hstate (fun reply state hs => ⟨_, rfl, .replaced ⟨nofun, nofun⟩ hs⟩)
      (fun reply x hs => ⟨_, rfl, .kept ⟨nofun, nofun⟩ hs⟩)

/-- What the path of generation 6 comes to in a collection. -/
def v6Outcome (srv : Server σ) (r : Record) (s : Scene σ) : Except Fault Report :=
  ((collectV6 r.baseUrl (r.note? passwordNote)).run srv
    (sceneAfter srv (fetchV5 r.baseUrl) s)).1

/-- The session that a collection finds in the cache, if it comes to look
for one: the one that can be used after the first two requests. -/
def sessionFound (srv : Server σ) (base : String) (s : Scene σ) : Option Credentials :=
  sessionAt srv (sceneAfter srv (fetchSummary base none) (sceneAfter srv (fetchV5 base) s))

/-- Every collection is a course. -/
theorem course_collect (r : Record) (s : Scene σ) :
    Ends srv (collect r) s fun a _ log =>
      Course r.baseUrl (r.note? passwordNote) (sessionFound srv r.baseUrl s)
        (v6Outcome srv r s) log a := by
  have hold : Ends srv (fetchV5 r.baseUrl) s fun a s' log =>
      s' = sceneAfter srv (fetchV5 r.baseUrl) s ∧ ∃ reply,
        log = [⟨oldRequest r.baseUrl, reply⟩] ∧ a = oldSummaryResult r.baseUrl reply := by
    refine ⟨rfl, ?_⟩
    have hasked : Ends srv (fetchV5 r.baseUrl) s fun a _ log => ∃ reply,
        log = [⟨oldRequest r.baseUrl, reply⟩] ∧ a = oldSummaryResult r.baseUrl reply :=
      ends_document fun reply _ _ _ => ⟨reply, rfl, rfl⟩
    exact hasked
  refine Ends.bind hold ?_
  rintro a s' log ⟨hs', reply, rfl, ha⟩
  cases a with
  | ok report => exact Ends.done (.old (documentResult_eq_ok_iff.mp ha.symm))
  | error x =>
    have hnone : oldSummary? reply = none := by
      cases ho : oldSummary? reply with
      | none => rfl
      | some report => cases ha.trans (documentResult_eq_ok_iff.mpr ho)
    have hv6 : Ends srv (collectV6 r.baseUrl (r.note? passwordNote)) s' fun a _ log =>
        v6Outcome srv r s = a ∧ V6Course r.baseUrl (r.note? passwordNote)
          (sessionFound srv r.baseUrl s) log a := by
      unfold v6Outcome sessionFound
      rw [← hs']
      exact ⟨rfl, course_collectV6 _ s'⟩
    refine Ends.bind hv6 ?_
    rintro a s'' log ⟨hv, hc⟩
    cases a with
    | ok report =>
      refine Ends.done ?_
      rw [List.append_nil]
      exact .shown hnone hv hc
    | error e =>
      refine Ends.imp (course_collectPublic e s'') fun _ _ log' hp => ?_
      show Course _ _ _ _ (_ :: (log ++ log')) _
      exact .failed hnone hv hc hp

end HostTelemetry.PiHole
