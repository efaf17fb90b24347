/-
The requests that the plugin sends, and a rule for each of its functions
that sends one.

Each rule says the same of its function: one request goes out, the cache
stays as it is, and the result is a function of the reply. The result
itself is said in terms of what the reply holds (`Reply.reads`), so that a
statement about servers need not mention how the plugin decodes.

A login is the exception in two respects. It changes the cache, and its
rule has two cases, since only a good answer does so.
-/
import HostTelemetry.PiHole.Plugin
import HostTelemetry.Proofs.Http.Exchanges

namespace HostTelemetry.PiHole

open Http (Credentials Dialogue Exchange Grant Reply Request)
open Http.Dialogue (Ends Scene Server callRequest)
open Service (Fault Report)

variable {σ : Type} {srv : Server σ} {base : String}

-- ====================================================== kinds of requests

/-- A request for the summary of generation 5. -/
def IsOldSummary (base : String) (r : Request) : Prop :=
  r.method = .get ∧ r.url = base ++ "/admin/api.php?summaryRaw"

/-- A request for the summary of generation 6. -/
def IsSummary (base : String) (r : Request) : Prop :=
  r.method = .get ∧ r.url = base ++ "/api/stats/summary"

/-- A request to block or not to block. -/
def IsBlocking (base : String) (r : Request) : Prop :=
  r.method = .post ∧ r.url = base ++ "/api/dns/blocking"

/-- A login. -/
def IsLogin (base : String) (r : Request) : Prop :=
  r.method = .post ∧ r.url = base ++ "/api/auth"

instance (r : Request) : Decidable (IsLogin base r) :=
  inferInstanceAs (Decidable (_ ∧ _))

/-- The content of a login. -/
def loginBody (password : String) : Json := .obj [("password", .str password)]

theorem not_isLogin_of_isOldSummary {r : Request} (h : IsOldSummary base r) :
    ¬ IsLogin base r := by
  intro hl
  rw [IsLogin, h.1] at hl
  exact absurd hl.1 (by decide)

theorem not_isLogin_of_isSummary {r : Request} (h : IsSummary base r) : ¬ IsLogin base r := by
  intro hl
  rw [IsLogin, h.1] at hl
  exact absurd hl.1 (by decide)

theorem not_isLogin_of_isBlocking {r : Request} (h : IsBlocking base r) : ¬ IsLogin base r := by
  intro hl
  have hurl : base ++ "/api/dns/blocking" = base ++ "/api/auth" := h.2.symm.trans hl.2
  exact absurd (String.append_right_inj base |>.mp hurl) (by decide)

/-- The number of logins among exchanges. -/
def logins (base : String) (log : List Exchange) : Nat :=
  log.countP fun x => IsLogin base x.request

theorem logins_append (log log' : List Exchange) :
    logins base (log ++ log') = logins base log + logins base log' :=
  List.countP_append ..

theorem logins_singleton_of_not {r : Request} (reply : Reply) (h : ¬ IsLogin base r) :
    logins base [⟨r, reply⟩] = 0 := by
  simp [logins, h]

theorem logins_singleton_of_isLogin {r : Request} (reply : Reply) (h : IsLogin base r) :
    logins base [⟨r, reply⟩] = 1 := by
  simp [logins, h]

-- ============================================================== refusals

/-- Whether what came of a request asks for a login. -/
def refused {α : Type} : Except Fault α → Bool
  | .ok _ => false
  | .error e => e.isUnauthorized

/-- What is made of a result asks for a login if the result does. -/
theorem refused_bind {α β : Type} {a : Except Fault α} {f : α → Except Fault β}
    (h : ∀ x, refused (f x) = false) : refused (a.bind f) = refused a := by
  cases a with
  | ok x => exact h x
  | error e => rfl

theorem refused_map {α β : Type} (a : Except Fault α) (f : α → β) :
    refused (a.map f) = refused a := by
  cases a <;> rfl

theorem refused_content (url : String) (reply : Reply) :
    refused (reply.content url) = reply.isRefusal := by
  cases reply with
  | closed => rfl
  | silence => rfl
  | response r =>
      simp only [Reply.content, Reply.isRefusal]
      by_cases hs : r.status = 200
      · rw [if_neg (not_not_intro hs), hs]
        cases Http.readLimited Http.maxCallBody r.body with
        | ok content => rfl
        | error e => cases e <;> rfl
      · rw [if_pos hs]
        rfl

theorem refused_decodeBody {α : Type} (read? : Json → Option α) (url : String) (body : Bytes) :
    refused (Http.decodeBody read? url body) = false := by
  unfold Http.decodeBody
  cases (Json.ofBytes? body).bind read? <;> rfl

theorem refused_expect {α : Type} (url reason : String) (a : Option α) :
    refused (expect url reason a) = false := by
  cases a <;> rfl

-- ============================================== results of single requests

/-- What asking for a document of an expected form comes to. -/
def documentResult {α : Type} (url reason : String) (read? : Json → Option α) (reply : Reply) :
    Except Fault α :=
  ((reply.content url).bind (Http.decodeBody Json.document? url)).bind fun j =>
    expect url reason (read? j)

/-- What asking for the summary of generation 5 comes to. -/
def oldSummaryResult (base : String) : Reply → Except Fault Report :=
  documentResult (base ++ "/admin/api.php?summaryRaw") "not a Pi-hole v5 summary" v5Report?

/-- What asking for the summary of generation 6 comes to. -/
def summaryResult (base : String) : Reply → Except Fault Report :=
  documentResult (base ++ "/api/stats/summary") "missing queries object" v6Report?

/-- What telling the server to block or not to block comes to. -/
def blockingResult (base : String) (reply : Reply) : Except Fault Unit :=
  (reply.content (base ++ "/api/dns/blocking")).map fun _ => ()

/-- What a login comes to. -/
def loginResult (base : String) (reply : Reply) : Except Fault Grant :=
  grantOfAnswer (base ++ "/api/auth") (reply.content (base ++ "/api/auth"))

/-- The summary of generation 5 that a reply holds. -/
def oldSummary? (reply : Reply) : Option Report :=
  (reply.reads Json.document?).bind v5Report?

/-- The summary of generation 6 that a reply holds. -/
def summary? (reply : Reply) : Option Report :=
  (reply.reads Json.document?).bind v6Report?

/-- What a reply to a login grants: a session that is good and has a
number. -/
def grant? (reply : Reply) : Option Grant :=
  (reply.reads LoginAnswer.ofJson?).bind LoginAnswer.grant?

/-- A document is taken over if the reply holds one of the expected form,
and else there is a fault. -/
theorem documentResult_eq_ok_iff {α : Type} {url reason : String} {read? : Json → Option α}
    {reply : Reply} {a : α} :
    documentResult url reason read? reply = .ok a
      ↔ (reply.reads Json.document?).bind read? = some a := by
  unfold documentResult
  cases hd : (reply.content url).bind (Http.decodeBody Json.document? url) with
  | error e =>
      cases hj : reply.reads Json.document? with
      | none => simp [Except.bind]
      | some j =>
          rw [Reply.decodeBody_eq_ok_iff.mpr hj] at hd
          cases hd
  | ok j =>
      rw [Reply.decodeBody_eq_ok_iff.mp hd]
      simp only [Except.bind, Option.bind_some]
      cases read? j <;> simp [expect]

theorem documentResult_of_isRefusal {α : Type} {url reason : String}
    {read? : Json → Option α} {reply : Reply} (h : reply.isRefusal = true) :
    documentResult url reason read? reply = .error (.status url 401) := by
  unfold documentResult
  rw [Reply.content_of_isRefusal url h]
  rfl

theorem blockingResult_of_bytes? {reply : Reply} (h : reply.bytes?.isSome = true) :
    blockingResult base reply = .ok () := by
  obtain ⟨body, hb⟩ := Option.isSome_iff_exists.mp h
  unfold blockingResult
  rw [Reply.content_eq_ok_iff.mpr hb]
  rfl

theorem blockingResult_of_isRefusal {reply : Reply} (h : reply.isRefusal = true) :
    blockingResult base reply = .error (.status (base ++ "/api/dns/blocking") 401) := by
  unfold blockingResult
  rw [Reply.content_of_isRefusal _ h]
  rfl

/-- A reply that grants a session is a good login. -/
theorem loginResult_of_grant? {reply : Reply} {g : Grant} (h : grant? reply = some g) :
    loginResult base reply = .ok g := by
  obtain ⟨a, ha, hg⟩ := Option.bind_eq_some_iff.mp h
  have hd : (reply.content (base ++ "/api/auth")).bind
      (Http.decodeBody LoginAnswer.ofJson? (base ++ "/api/auth")) = .ok a :=
    Reply.decodeBody_eq_ok_iff.mpr ha
  unfold loginResult
  cases hc : reply.content (base ++ "/api/auth") with
  | error e =>
      rw [hc] at hd
      cases hd
  | ok body =>
      rw [hc] at hd
      simp only [Except.bind] at hd
      simp only [grantOfAnswer, grantOfBody, hd, Except.bind, hg]

/-- Only a reply that grants a session is a good login. -/
theorem grant?_of_loginResult {reply : Reply} {g : Grant} (h : loginResult base reply = .ok g) :
    grant? reply = some g := by
  unfold loginResult at h
  cases hc : reply.content (base ++ "/api/auth") with
  | error e =>
      rw [hc] at h
      cases h
  | ok body =>
      rw [hc] at h
      simp only [grantOfAnswer, grantOfBody] at h
      cases hd : Http.decodeBody LoginAnswer.ofJson? (base ++ "/api/auth") body with
      | error e =>
          rw [hd] at h
          cases h
      | ok a =>
          have hdecode : (reply.content (base ++ "/api/auth")).bind
              (Http.decodeBody LoginAnswer.ofJson? (base ++ "/api/auth")) = .ok a := by
            rw [hc]
            exact hd
          have hreads := Reply.decodeBody_eq_ok_iff.mp hdecode
          rw [hd] at h
          simp only [Except.bind] at h
          unfold grant?
          rw [hreads, Option.bind_some]
          cases hg : a.grant? with
          | none =>
              rw [hg] at h
              cases h
          | some g' =>
              rw [hg] at h
              cases h
              rfl

-- ================================================================= rules

/-- The rule of every function that sends one request and works on what
comes back. -/
theorem ends_call_map {α : Type} {method : Http.Method} {url : String}
    {credentials : Option Credentials} {body : Option Json} {s : Scene σ}
    {f : Except Fault Bytes → α} {post : α → Scene σ → List Exchange → Prop}
    (hc : credentials.all Credentials.canBeSent = true)
    (h : ∀ reply server elapsed,
      srv.reply (callRequest method url credentials body) s.server = (reply, server) →
      post (f (reply.content url)) { s with server, elapsed }
        [⟨callRequest method url credentials body, reply⟩]) :
    Ends srv ((Http.call method url credentials body).bind fun a => .done (f a)) s post := by
  refine Ends.bind (m := fun a s' log => post (f a) s' log) (Ends.call hc h) ?_
  intro a s' log hpost
  refine Ends.done ?_
  rw [List.append_nil]
  exact hpost

/-- Asking for a document without a session. -/
theorem ends_document {α : Type} {url reason : String} {read? : Json → Option α} {s : Scene σ}
    {post : Except Fault α → Scene σ → List Exchange → Prop}
    (h : ∀ reply server elapsed,
      srv.reply (callRequest .get url none none) s.server = (reply, server) →
      post (documentResult url reason read? reply) { s with server, elapsed }
        [⟨callRequest .get url none none, reply⟩]) :
    Ends srv ((Http.getJson Json.document? url).bind fun a =>
      .done (a.bind fun j => expect url reason (read? j))) s post := by
  refine Ends.bind
    (m := fun a s' log => post (a.bind fun j => expect url reason (read? j)) s' log)
    (ends_call_map rfl h) ?_
  intro a s' log hpost
  refine Ends.done ?_
  rw [List.append_nil]
  exact hpost

/-- Asking for the summary of generation 5. -/
theorem ends_fetchV5 {s : Scene σ} {post : Except Fault Report → Scene σ → List Exchange → Prop}
    (h : ∀ r reply server elapsed, IsOldSummary base r → srv.reply r s.server = (reply, server) →
      post (oldSummaryResult base reply) { s with server, elapsed } [⟨r, reply⟩]) :
    Ends srv (fetchV5 base) s post :=
  ends_document fun reply server elapsed hr => h _ reply server elapsed ⟨rfl, rfl⟩ hr

/-- Asking for the summary of generation 6. -/
theorem ends_fetchSummary {credentials : Option Credentials} {s : Scene σ}
    {post : Except Fault Report → Scene σ → List Exchange → Prop}
    (hc : credentials.all Credentials.canBeSent = true)
    (h : ∀ r reply server elapsed, IsSummary base r → r.credentials = credentials →
      srv.reply r s.server = (reply, server) →
      post (summaryResult base reply) { s with server, elapsed } [⟨r, reply⟩]) :
    Ends srv (fetchSummary base credentials) s post := by
  refine ends_call_map hc fun reply server elapsed hr => ?_
  have hpost := h _ reply server elapsed ⟨rfl, rfl⟩ rfl hr
  unfold summaryResult documentResult at hpost
  cases hb : reply.content (base ++ "/api/stats/summary") with
  | error e =>
      rw [hb] at hpost
      exact hpost
  | ok body =>
      rw [hb] at hpost
      exact hpost

/-- Telling the server to block or not to block. -/
theorem ends_postBlocking {body : Json} {credentials : Option Credentials} {s : Scene σ}
    {post : Except Fault Unit → Scene σ → List Exchange → Prop}
    (hc : credentials.all Credentials.canBeSent = true)
    (h : ∀ r reply server elapsed, IsBlocking base r → r.credentials = credentials →
      srv.reply r s.server = (reply, server) →
      post (blockingResult base reply) { s with server, elapsed } [⟨r, reply⟩]) :
    Ends srv (postBlocking base body credentials) s post :=
  ends_call_map hc fun reply server elapsed hr =>
    h _ reply server elapsed ⟨rfl, rfl⟩ rfl hr

/-- The request of a login. -/
def loginRequest (base password : String) : Request :=
  callRequest .post (base ++ "/api/auth") none (some (loginBody password))

/-- A login by its request: what is granted is in the cache afterwards, and
whoever is refused leaves the cache as it is. -/
theorem ends_loginRequest {password : String} {s : Scene σ}
    {post : Except Fault Credentials → Scene σ → List Exchange → Prop}
    (hok : ∀ reply server elapsed g,
      srv.reply (loginRequest base password) s.server = (reply, server) →
      loginResult base reply = .ok g →
      post (.ok g.credentials) { server, elapsed, cache := some (g.session (srv.now server)) }
        [⟨loginRequest base password, reply⟩])
    (herror : ∀ reply server elapsed e,
      srv.reply (loginRequest base password) s.server = (reply, server) →
      loginResult base reply = .error e →
      post (.error e) { s with server, elapsed } [⟨loginRequest base password, reply⟩]) :
    Ends srv (authenticate base password) s post := by
  refine Ends.bind
    (m := fun a s' log => ∃ reply server elapsed,
      srv.reply (loginRequest base password) s.server = (reply, server) ∧
      a = reply.content (base ++ "/api/auth") ∧ s' = { s with server, elapsed } ∧
      log = [⟨loginRequest base password, reply⟩]) (Ends.call rfl ?_) ?_
  · intro reply server elapsed hr
    exact ⟨reply, server, elapsed, hr, rfl, rfl, rfl⟩
  · rintro a s' log ⟨reply, server, elapsed, hr, rfl, rfl, rfl⟩
    cases hg : loginResult base reply with
    | ok g =>
        unfold loginResult at hg
        simp only [hg]
        exact Ends.keep (Ends.done (hok reply server elapsed g hr hg))
    | error e =>
        unfold loginResult at hg
        simp only [hg]
        exact Ends.done (herror reply server elapsed e hr hg)

/-- A login: what is granted is in the cache afterwards, and whoever is
refused leaves the cache as it is. -/
theorem ends_authenticate {password : String} {s : Scene σ}
    {post : Except Fault Credentials → Scene σ → List Exchange → Prop}
    (hok : ∀ r reply server elapsed g, IsLogin base r → r.body = some (loginBody password) →
      srv.reply r s.server = (reply, server) → loginResult base reply = .ok g →
      post (.ok g.credentials)
        { server, elapsed, cache := some (g.session (srv.now server)) } [⟨r, reply⟩])
    (herror : ∀ r reply server elapsed e, IsLogin base r →
      r.body = some (loginBody password) →
      srv.reply r s.server = (reply, server) → loginResult base reply = .error e →
      post (.error e) { s with server, elapsed } [⟨r, reply⟩]) :
    Ends srv (authenticate base password) s post :=
  ends_loginRequest
    (fun reply server elapsed g => hok _ reply server elapsed g ⟨rfl, rfl⟩ rfl)
    (fun reply server elapsed e => herror _ reply server elapsed e ⟨rfl, rfl⟩ rfl)

end HostTelemetry.PiHole
