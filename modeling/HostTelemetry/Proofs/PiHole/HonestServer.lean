/-
The plugin against a server that keeps its promises, one dialogue at a
time.

# The server

`Honest` is what the plugin counts on. The server asks for a login before
it shows its summary or changes its blocking; it takes every session that
it has issued and not invalidated, and no other; it issues a session for
the password. What it does besides is open. It may answer a request for a
summary of generation 5 in any way that is none, its summary may change
from request to request, and nothing hangs on whether the number of a new
session was in use before.

# The dialogues

The plugin has one place for a session, the server has a set of sessions
that live. `SignedIn` says that the session in that place lives. A
collection and an action both end signed in, whatever they began with, and
they log in at most once, and not at all if they began signed in
(`Settled`, proved in `ends_collect` and `ends_act`).

Both come to a fresh login on their own way. A collection asks without a
session first, and an action does so only if it has none; what they share
is the look at the cache (`credentials_cases`): the session that is found
there signs the plugin in, or it is dead and the server says so.
-/
import HostTelemetry.Proofs.PiHole.Wire

namespace HostTelemetry.PiHole

open Http (Credentials Dialogue Exchange Grant Reply Request Session)
open Http.Dialogue (Ends Scene Server)
open Service (Fault Params Record Report)

variable {σ : Type} {srv : Server σ} {base password : String}

-- ============================================================= the server

/-- A server of generation 6 that keeps its promises. `Lives s sid` says
that the session of that number was issued and not invalidated since, and
`revoke` invalidates all sessions; no time passes, and apart from that only
logins change which sessions live. Without a session that lives there is
neither a summary nor an action, with one there are both; and the password
is granted a session that can be used for some time. -/
structure Honest (srv : Server σ) (base password : String) where
  Lives : σ → String → Prop
  revoke : σ → σ
  moment : Nat
  now_eq : ∀ s, srv.now s = moment
  not_lives_revoke : ∀ s sid, ¬ Lives (revoke s) sid
  lives_reply : ∀ r s sid, ¬ IsLogin base r → (Lives (srv.reply r s).2 sid ↔ Lives s sid)
  no_oldSummary : ∀ r s, IsOldSummary base r → oldSummary? (srv.reply r s).1 = none
  locked : ∀ r s, IsSummary base r ∨ IsBlocking base r → r.credentials = none →
    (srv.reply r s).1.isRefusal = true
  refuses : ∀ r s c, IsSummary base r ∨ IsBlocking base r → r.credentials = some c →
    ¬ Lives s c.sid → (srv.reply r s).1.isRefusal = true
  shows : ∀ r s c, IsSummary base r → r.credentials = some c → Lives s c.sid →
    (summary? (srv.reply r s).1).isSome = true
  obeys : ∀ r s c, IsBlocking base r → r.credentials = some c → Lives s c.sid →
    (srv.reply r s).1.bytes?.isSome = true
  grants : ∀ r s, IsLogin base r → r.body = some (loginBody password) →
    ∃ g, grant? (srv.reply r s).1 = some g ∧ Http.lifetime g.validity ≠ 0 ∧
      ∀ sid, Lives (srv.reply r s).2 sid ↔ sid = g.credentials.sid ∨ Lives s sid

/-- A grant can be kept and presented again: header fields can hold its
number and its token, and the clock can hold its end. -/
structure IsPresentable (moment : Nat) (g : Grant) : Prop where
  canBeSent : g.credentials.canBeSent = true
  ends : (Http.after? moment (Http.lifetime g.validity)).isSome = true

/-- Whatever the server grants to the password is good in some respect. -/
def Issues (srv : Server σ) (base password : String) (good : Grant → Prop) : Prop :=
  ∀ r s g, IsLogin base r → r.body = some (loginBody password) →
    grant? (srv.reply r s).1 = some g → good g

namespace Honest

-- ========================================================= states of both

/-- The cached session can be used and lives. -/
def SignedIn (h : Honest srv base password) (s : Scene σ) : Prop :=
  ∃ x : Session, s.cache = some x ∧ x.isValid h.moment = true ∧ h.Lives s.server x.credentials.sid

/-- The cached session, if there is one, can be sent. -/
def Sendable (s : Scene σ) : Prop :=
  ∀ x : Session, s.cache = some x → x.credentials.canBeSent = true

/-- Nothing has changed that matters for sessions: the cache is the same,
the same sessions live, and nobody has logged in. -/
structure Quiet (h : Honest srv base password) (s s' : Scene σ) (log : List Exchange) :
    Prop where
  cache : s'.cache = s.cache
  lives : ∀ sid, h.Lives s'.server sid ↔ h.Lives s.server sid
  logins : logins base log = 0

variable {h : Honest srv base password} {s s' s'' : Scene σ} {log log' : List Exchange}

/-- A request that is no login is quiet. -/
theorem Quiet.of_reply {r : Request} {reply : Reply} {server : σ} {elapsed : Nat}
    (hl : ¬ IsLogin base r) (hr : srv.reply r s.server = (reply, server)) :
    Quiet h s { s with server, elapsed } [⟨r, reply⟩] where
  cache := rfl
  lives sid := by
    have hlives := h.lives_reply r s.server sid hl
    rw [hr] at hlives
    exact hlives
  logins := logins_singleton_of_not reply hl

theorem SignedIn.of_quiet (hs : SignedIn h s) (hq : Quiet h s s' log) : SignedIn h s' := by
  obtain ⟨x, hx, hvalid, hlives⟩ := hs
  exact ⟨x, hq.cache.trans hx, hvalid, (hq.lives _).mpr hlives⟩

theorem SignedIn.before_quiet (hs : SignedIn h s') (hq : Quiet h s s' log) : SignedIn h s := by
  obtain ⟨x, hx, hvalid, hlives⟩ := hs
  exact ⟨x, hq.cache.symm.trans hx, hvalid, (hq.lives _).mp hlives⟩

theorem Sendable.of_quiet (hs : Sendable s) (hq : Quiet h s s' log) : Sendable s' := by
  intro x hx
  exact hs x (hq.cache.symm.trans hx)

-- ======================================================== single requests

/-- The report is that of a summary which the server gave. -/
def Served (base : String) (log : List Exchange) (report : Report) : Prop :=
  ∃ x ∈ log, IsSummary base x.request ∧ summary? x.reply = some report

theorem Served.append_left {report : Report} (hs : Served base log' report) :
    Served base (log ++ log') report := by
  obtain ⟨x, hx, hserved⟩ := hs
  exact ⟨x, List.mem_append_right log hx, hserved⟩

/-- The summary of generation 5 is not there. -/
theorem ends_oldSummary (h : Honest srv base password) (s : Scene σ) :
    Ends srv (fetchV5 base) s fun a s' log => (∃ e, a = .error e) ∧ Quiet h s s' log := by
  refine ends_fetchV5 fun r reply server elapsed hr hreply => ⟨?_, ?_⟩
  · cases hres : oldSummaryResult base reply with
    | error e => exact ⟨e, rfl⟩
    | ok report =>
        have hno := h.no_oldSummary r s.server hr
        rw [hreply] at hno
        rw [oldSummary?, documentResult_eq_ok_iff.mp hres] at hno
        cases hno
  · exact Quiet.of_reply (not_isLogin_of_isOldSummary hr) hreply

/-- A summary without a session, or with one that does not live, is
refused. -/
theorem ends_summary_refused (h : Honest srv base password) {s : Scene σ}
    {credentials : Option Credentials} (hc : credentials.all Credentials.canBeSent = true)
    (hdead : ∀ c, credentials = some c → ¬ h.Lives s.server c.sid) :
    Ends srv (fetchSummary base credentials) s fun a s' log =>
      a = .error (.status (base ++ "/api/stats/summary") 401) ∧ Quiet h s s' log := by
  refine ends_fetchSummary hc fun r reply server elapsed hr hrc hreply => ⟨?_, ?_⟩
  · have hrefused : (srv.reply r s.server).1.isRefusal = true := by
      cases credentials with
      | none => exact h.locked r s.server (.inl hr) hrc
      | some c => exact h.refuses r s.server c (.inl hr) hrc (hdead c rfl)
    rw [hreply] at hrefused
    exact documentResult_of_isRefusal hrefused
  · exact Quiet.of_reply (not_isLogin_of_isSummary hr) hreply

/-- A session that lives is shown the summary. -/
theorem ends_summary_shown (h : Honest srv base password) {s : Scene σ} {c : Credentials}
    (hc : c.canBeSent = true) (hlives : h.Lives s.server c.sid) :
    Ends srv (fetchSummary base (some c)) s fun a s' log =>
      (∃ report, a = .ok report ∧ Served base log report) ∧ Quiet h s s' log := by
  refine ends_fetchSummary hc fun r reply server elapsed hr hrc hreply => ⟨?_, ?_⟩
  · have hshown := h.shows r s.server c hr hrc hlives
    rw [hreply] at hshown
    obtain ⟨report, hreport⟩ := Option.isSome_iff_exists.mp hshown
    exact ⟨report, documentResult_eq_ok_iff.mpr hreport,
      ⟨r, reply⟩, List.mem_singleton_self _, hr, hreport⟩
  · exact Quiet.of_reply (not_isLogin_of_isSummary hr) hreply

/-- An action without a session, or with one that does not live, is
refused. -/
theorem ends_blocking_refused (h : Honest srv base password) {s : Scene σ} {body : Json}
    {credentials : Option Credentials} (hc : credentials.all Credentials.canBeSent = true)
    (hdead : ∀ c, credentials = some c → ¬ h.Lives s.server c.sid) :
    Ends srv (postBlocking base body credentials) s fun a s' log =>
      a = .error (.status (base ++ "/api/dns/blocking") 401) ∧ Quiet h s s' log := by
  refine ends_postBlocking hc fun r reply server elapsed hr hrc hreply => ⟨?_, ?_⟩
  · have hrefused : (srv.reply r s.server).1.isRefusal = true := by
      cases credentials with
      | none => exact h.locked r s.server (.inr hr) hrc
      | some c => exact h.refuses r s.server c (.inr hr) hrc (hdead c rfl)
    rw [hreply] at hrefused
    exact blockingResult_of_isRefusal hrefused
  · exact Quiet.of_reply (not_isLogin_of_isBlocking hr) hreply

/-- A session that lives may change the blocking. -/
theorem ends_blocking_obeyed (h : Honest srv base password) {s : Scene σ} {body : Json}
    {c : Credentials} (hc : c.canBeSent = true) (hlives : h.Lives s.server c.sid) :
    Ends srv (postBlocking base body (some c)) s fun a s' log =>
      a = .ok () ∧ Quiet h s s' log := by
  refine ends_postBlocking hc fun r reply server elapsed hr hrc hreply => ⟨?_, ?_⟩
  · have hobeyed := h.obeys r s.server c hr hrc hlives
    rw [hreply] at hobeyed
    exact blockingResult_of_bytes? hobeyed
  · exact Quiet.of_reply (not_isLogin_of_isBlocking hr) hreply

/-- What one login leaves behind: a session that can be used, can be sent
and lives. -/
structure Entered (h : Honest srv base password) (c : Credentials) (s' : Scene σ)
    (log : List Exchange) : Prop where
  cached : ∃ x : Session, s'.cache = some x ∧ x.credentials = c ∧ x.isValid h.moment = true
  canBeSent : c.canBeSent = true
  lives : h.Lives s'.server c.sid
  logins : logins base log = 1

theorem Entered.signedIn {c : Credentials} (he : Entered h c s log) : SignedIn h s := by
  obtain ⟨x, hx, rfl, hvalid⟩ := he.cached
  exact ⟨x, hx, hvalid, he.lives⟩

theorem Entered.sendable {c : Credentials} (he : Entered h c s log) : Sendable s := by
  obtain ⟨x, hx, rfl, -⟩ := he.cached
  intro y hy
  rw [hx] at hy
  cases hy
  exact he.canBeSent

/-- A session that begins now and has a lifetime can be used now. -/
theorem isValid_session {moment : Nat} {g : Grant} (hsid : g.credentials.sid ≠ "")
    (hlife : Http.lifetime g.validity ≠ 0) : (g.session moment).isValid moment = true := by
  have hlt : moment < moment + Http.lifetime g.validity := by omega
  simp [Session.isValid, Grant.session, hsid, hlt]

theorem sid_ne_of_grant? {reply : Reply} {g : Grant} (hg : grant? reply = some g) :
    g.credentials.sid ≠ "" := by
  obtain ⟨a, -, ha⟩ := Option.bind_eq_some_iff.mp hg
  unfold LoginAnswer.grant? at ha
  split at ha
  next hgood =>
    cases ha
    simp only [Bool.and_eq_true, decide_eq_true_eq] at hgood
    exact hgood.2
  next => cases ha

/-- The password is granted a session. -/
theorem ends_login (h : Honest srv base password)
    (hg : Issues srv base password (IsPresentable h.moment)) (s : Scene σ) :
    Ends srv (authenticate base password) s fun a s' log =>
      ∃ c, a = .ok c ∧ Entered h c s' log := by
  refine ends_authenticate ?_ ?_
  · intro r reply server elapsed g hl hb hreply hres
    obtain ⟨g', hgrant, hlife, hlives⟩ := h.grants r s.server hl hb
    have hpresentable := hg r s.server g' hl hb hgrant
    rw [hreply] at hgrant hlives
    rw [loginResult_of_grant? hgrant] at hres
    cases hres
    rw [h.now_eq]
    exact ⟨_, rfl, ⟨_, rfl, rfl, isValid_session (sid_ne_of_grant? hgrant) hlife⟩,
      hpresentable.canBeSent, (hlives _).mpr (.inl rfl), logins_singleton_of_isLogin reply hl⟩
  · intro r reply server elapsed e hl hb hreply hres
    obtain ⟨g, hgrant, -⟩ := h.grants r s.server hl hb
    rw [hreply] at hgrant
    rw [loginResult_of_grant? hgrant] at hres
    cases hres

-- ================================================= collections, actions

/-- What a collection or an action leaves behind, whatever it began with:
the plugin is signed in, and has logged in only if it was not before. -/
structure Settled (h : Honest srv base password) (s s' : Scene σ) (log : List Exchange) :
    Prop where
  signedIn : SignedIn h s'
  sendable : Sendable s'
  once : logins base log ≤ 1
  spared : SignedIn h s → logins base log = 0

/-- A quiet beginning changes nothing about what is left behind. -/
theorem Settled.after_quiet (hq : Quiet h s s' log) (hs : Settled h s' s'' log') :
    Settled h s s'' (log ++ log') where
  signedIn := hs.signedIn
  sendable := hs.sendable
  once := by
    rw [logins_append, hq.logins, Nat.zero_add]
    exact hs.once
  spared hsigned := by
    rw [logins_append, hq.logins, hs.spared (hsigned.of_quiet hq)]

/-- Whoever was signed in and did nothing else is still so. -/
theorem Settled.of_quiet (hsigned : SignedIn h s) (hsent : Sendable s) (hq : Quiet h s s' log) :
    Settled h s s' log where
  signedIn := hsigned.of_quiet hq
  sendable := hsent.of_quiet hq
  once := by
    rw [hq.logins]
    exact Nat.zero_le 1
  spared _ := hq.logins

/-- Whoever was not signed in is so after a login and what follows on it
quietly. -/
theorem Settled.of_entered {c : Credentials} {s₀ : Scene σ} (hout : ¬ SignedIn h s₀)
    (he : Entered h c s log) (hq : Quiet h s s' log') : Settled h s₀ s' (log ++ log') where
  signedIn := he.signedIn.of_quiet hq
  sendable := he.sendable.of_quiet hq
  once := by
    have hone : logins base (log ++ log') = 1 := by
      rw [logins_append, he.logins, hq.logins]
    exact Nat.le_of_eq hone
  spared hsigned := absurd hsigned hout

/-- The summary with a fresh login, for whoever was not signed in. -/
theorem ends_collectFresh (h : Honest srv base password)
    (hg : Issues srv base password (IsPresentable h.moment)) {s₀ : Scene σ}
    (hout : ¬ SignedIn h s₀) (s : Scene σ) :
    Ends srv (collectFresh base (some password)) s fun a s' log =>
      (∃ report, a = .ok report ∧ Served base log report) ∧ Settled h s₀ s' log := by
  refine Ends.bind (ends_login h hg s) ?_
  rintro a s' log ⟨c, rfl, he⟩
  refine Ends.bind (ends_summary_shown h he.canBeSent he.lives) ?_
  rintro a s'' log' ⟨⟨report, rfl, hserved⟩, hq⟩
  refine Ends.done ?_
  rw [List.append_nil]
  exact ⟨⟨report, rfl, hserved.append_left⟩, Settled.of_entered hout he hq⟩

/-- The request sent once more with a fresh login, for whoever was not
signed in. -/
theorem ends_blockFresh (h : Honest srv base password)
    (hg : Issues srv base password (IsPresentable h.moment)) {s₀ : Scene σ}
    (hout : ¬ SignedIn h s₀) (body : Json) (s : Scene σ) :
    Ends srv (blockFresh base body (some password)) s fun a s' log =>
      a = .ok () ∧ Settled h s₀ s' log := by
  refine Ends.bind (ends_login h hg s) ?_
  rintro a s' log ⟨c, rfl, he⟩
  refine Ends.bind (ends_blocking_obeyed h he.canBeSent he.lives) ?_
  rintro a s'' log' ⟨rfl, hq⟩
  refine Ends.done ?_
  rw [List.append_nil]
  exact ⟨rfl, Settled.of_entered hout he hq⟩

/-- What a look at the cache finds can be sent; and either it is a session
that lives and signs the plugin in, or it holds none that would. -/
theorem credentials_cases (h : Honest srv base password) {s : Scene σ} (hsent : Sendable s) :
    ∃ found, (Http.usable (srv.now s.server) s.cache).map (·.credentials) = found ∧
      found.all Credentials.canBeSent = true ∧
      ((∃ c, found = some c ∧ h.Lives s.server c.sid ∧ SignedIn h s) ∨
        (∀ c, found = some c → ¬ h.Lives s.server c.sid) ∧ ¬ SignedIn h s) := by
  rw [h.now_eq]
  unfold Http.usable
  cases hcache : s.cache with
  | none =>
      refine ⟨none, rfl, rfl, .inr ⟨nofun, ?_⟩⟩
      rintro ⟨x, hx, -⟩
      rw [hcache] at hx
      cases hx
  | some x =>
      cases hvalid : x.isValid h.moment with
      | false =>
          refine ⟨none, by simp [hvalid], rfl, .inr ⟨nofun, ?_⟩⟩
          rintro ⟨y, hy, hy', -⟩
          rw [hcache] at hy
          cases hy
          rw [hvalid] at hy'
          cases hy'
      | true =>
          refine ⟨some x.credentials, by rw [Option.filter_some_pos hvalid]; rfl,
            hsent x hcache, ?_⟩
          by_cases hlives : h.Lives s.server x.credentials.sid
          · exact .inl ⟨x.credentials, rfl, hlives, x, hcache, hvalid, hlives⟩
          · refine .inr ⟨?_, ?_⟩
            · rintro c hc
              cases hc
              exact hlives
            · rintro ⟨y, hy, -, hlives'⟩
              rw [hcache] at hy
              cases hy
              exact hlives hlives'

/-- The summary with the cached session, or else with a fresh login. -/
theorem ends_collectCached (h : Honest srv base password)
    (hg : Issues srv base password (IsPresentable h.moment)) {s : Scene σ}
    (hsent : Sendable s) :
    Ends srv (.consult (collectCached base (some password))) s fun a s' log =>
      (∃ report, a = .ok report ∧ Served base log report) ∧ Settled h s s' log := by
  refine Ends.consult ?_
  obtain ⟨found, hfound, hc, ⟨c, rfl, hlives, hin⟩ | ⟨hdead, hout⟩⟩ := credentials_cases h hsent
  · rw [hfound]
    refine Ends.bind (ends_summary_shown h hc hlives) ?_
    rintro a s' log ⟨⟨report, rfl, hserved⟩, hq⟩
    refine Ends.done ?_
    rw [List.append_nil]
    exact ⟨⟨report, rfl, hserved⟩, Settled.of_quiet hin hsent hq⟩
  · rw [hfound]
    cases found with
    | none => exact ends_collectFresh h hg hout s
    | some c =>
        refine Ends.bind (ends_summary_refused h hc hdead) ?_
        rintro a s' log ⟨rfl, hq⟩
        have hout' : ¬ SignedIn h s' := fun hin => hout (hin.before_quiet hq)
        refine Ends.forget (Ends.imp (ends_collectFresh h hg hout' _) ?_)
        rintro a s'' log' ⟨⟨report, rfl, hserved⟩, hsettled⟩
        exact ⟨⟨report, rfl, hserved.append_left⟩, hsettled.after_quiet hq⟩

/-- A collection gives the report of a summary that the server gave. -/
theorem ends_collect (h : Honest srv base password)
    (hg : Issues srv base password (IsPresentable h.moment)) {s : Scene σ}
    (hsent : Sendable s) {r : Record} (hbase : r.baseUrl = base)
    (hpassword : r.note? passwordNote = some password) :
    Ends srv (collect r) s fun a s' log =>
      (∃ report, a = .ok report ∧ Served base log report) ∧ Settled h s s' log := by
  unfold collect
  rw [hbase, hpassword]
  refine Ends.bind (ends_oldSummary h s) ?_
  rintro a s₁ log₁ ⟨⟨e, rfl⟩, hq₁⟩
  -- the sessionless summary is refused, so the cache is asked next
  have hv6 : Ends srv (collectV6 base (some password)) s₁ fun a s' log =>
      (∃ report, a = .ok report ∧ Served base log report) ∧ Settled h s₁ s' log := by
    refine Ends.bind (ends_summary_refused h rfl nofun) ?_
    rintro a s₂ log₂ ⟨rfl, hq₂⟩
    refine Ends.imp (ends_collectCached h hg ((hsent.of_quiet hq₁).of_quiet hq₂)) ?_
    rintro a s' log' ⟨⟨report, rfl, hserved⟩, hsettled⟩
    exact ⟨⟨report, rfl, hserved.append_left⟩, hsettled.after_quiet hq₂⟩
  refine Ends.bind hv6 ?_
  rintro a s₂ log₂ ⟨⟨report, rfl, hserved⟩, hsettled⟩
  refine Ends.done ?_
  rw [List.append_nil]
  exact ⟨⟨report, rfl, hserved.append_left⟩, hsettled.after_quiet hq₁⟩

/-- An action is done. -/
theorem ends_act (h : Honest srv base password)
    (hg : Issues srv base password (IsPresentable h.moment)) {s : Scene σ}
    (hsent : Sendable s) {r : Record} (hbase : r.baseUrl = base)
    (hpassword : r.note? passwordNote = some password) (hversion : r.version ≠ v5)
    {params : Params} {b : SetBlocking} (hparams : SetBlocking.ofParams? params = some b) :
    Ends srv (act r setBlockingName params) s fun a s' log =>
      a = .ok b.description ∧ Settled h s s' log := by
  unfold act
  rw [if_neg (not_not_intro rfl), if_neg hversion, hparams, hbase, hpassword]
  have hblock : Ends srv (block base (some password) b.body) s fun a s' log =>
      a = .ok () ∧ Settled h s s' log := by
    refine Ends.consult ?_
    obtain ⟨found, hfound, hc, ⟨c, rfl, hlives, hin⟩ | ⟨hdead, hout⟩⟩ := credentials_cases h hsent
    · rw [hfound]
      refine Ends.bind (ends_blocking_obeyed h hc hlives) ?_
      rintro a s' log ⟨rfl, hq⟩
      refine Ends.done ?_
      rw [List.append_nil]
      exact ⟨rfl, Settled.of_quiet hin hsent hq⟩
    · rw [hfound]
      refine Ends.bind (ends_blocking_refused h hc hdead) ?_
      rintro a s' log ⟨rfl, hq⟩
      have hout' : ¬ SignedIn h s' := fun hin => hout (hin.before_quiet hq)
      refine Ends.forget (Ends.imp (ends_blockFresh h hg hout' _ _) ?_)
      rintro a s'' log' ⟨rfl, hsettled⟩
      exact ⟨rfl, hsettled.after_quiet hq⟩
  refine Ends.bind hblock ?_
  rintro a s' log ⟨rfl, hsettled⟩
  refine Ends.done ?_
  rw [List.append_nil]
  exact ⟨rfl, hsettled⟩

end Honest

end HostTelemetry.PiHole
