/-
What a server answered, and what its answers say of the login.

# The answers

A collection asks for up to five things: the summary of generation 5, the
summary of generation 6 (without a session, with the one from the cache,
with a fresh one), a login, and the public state of the blocking. The
predicates of the first section read off the log what was answered. They
know nothing of how the plugin goes about it.

# The login

Of all faults two speak of the login: that it is missing, and that it
failed. On the path of generation 6 the first comes about just if the summary
is `Locked` and there is no password, and the second just if it is locked,
there is one, and the login fails (`LoginFailed`). All other faults are about
a single answer, or about a session that cannot be sent. Each relation of
courses has one lemma for each of the two, and `v6Course_cases` says what
they hang on.
-/
import HostTelemetry.Proofs.PiHole.Course

namespace HostTelemetry.PiHole

open Http (Credentials Exchange Reply Request)
open Service (Fault Report)

variable {α : Type} {base : String} {password : Option String} {found : Option Credentials}
  {a : Except Fault Report} {log log' : List Exchange}

-- =============================================================== answers

/-- A request for the public state of the blocking. -/
def IsPublicState (base : String) (r : Request) : Prop :=
  r.method = .get ∧ r.url = base ++ "/api/dns/blocking"

/-- The endpoint of generation 5 gave this report. -/
def GaveOldSummary (base : String) (log : List Exchange) (report : Report) : Prop :=
  ∃ x ∈ log, IsOldSummary base x.request ∧ oldSummary? x.reply = some report

/-- The endpoint of the blocking gave this state. -/
def GaveState (base : String) (log : List Exchange) (state : String) : Prop :=
  ∃ x ∈ log, IsPublicState base x.request ∧ publicState? x.reply = some state

/-- The summary of generation 6 was refused to a request with this login,
or without one. -/
def RefusedTo (base : String) (c : Option Credentials) (log : List Exchange) : Prop :=
  ∃ x ∈ log, IsSummary base x.request ∧ x.request.credentials = c ∧ x.reply.isRefusal = true

/-- The summary was refused without a session, and with the session that was
found in the cache, if any was found. -/
def Locked (base : String) (found : Option Credentials) (log : List Exchange) : Prop :=
  RefusedTo base none log ∧ ∀ c, found = some c → RefusedTo base (some c) log

/-- An exchange of one kind is followed by one of another, not necessarily
at once. -/
def Followed (P Q : Exchange → Prop) : List Exchange → Prop
  | [] => False
  | x :: rest => (P x ∧ ∃ y ∈ rest, Q y) ∨ Followed P Q rest

/-- A login is turned down: it is refused, or the session that it is told of
is not good or has no number. -/
def TurnedDown (reply : Reply) : Prop :=
  reply.isRefusal = true ∨
    ∃ a, reply.reads LoginAnswer.ofJson? = some a ∧ (a.valid = false ∨ a.sid = "")

/-- A login was turned down, or the summary was refused after it. -/
def LoginFailed (base : String) (log : List Exchange) : Prop :=
  (∃ x ∈ log, IsLogin base x.request ∧ TurnedDown x.reply) ∨
    Followed (fun x => IsLogin base x.request)
      (fun y => IsSummary base y.request ∧ y.reply.isRefusal = true) log

-- ==================================================== kinds of requests

section kinds

variable {c : Option Credentials} {p : String}

@[simp] theorem isSummary_summaryErrand : IsSummary base ((summaryErrand base).request c) :=
  ⟨rfl, rfl⟩

@[simp] theorem isLogin_loginRequest : IsLogin base (loginRequest base p) := ⟨rfl, rfl⟩

@[simp] theorem isOldSummary_oldRequest : IsOldSummary base (oldRequest base) := ⟨rfl, rfl⟩

@[simp] theorem isPublicState_stateRequest : IsPublicState base (stateRequest base) := ⟨rfl, rfl⟩

@[simp] theorem not_isLogin_summaryErrand : ¬ IsLogin base ((summaryErrand base).request c) :=
  not_isLogin_of_isSummary isSummary_summaryErrand

@[simp] theorem not_isLogin_oldRequest : ¬ IsLogin base (oldRequest base) :=
  not_isLogin_of_isOldSummary isOldSummary_oldRequest

@[simp] theorem not_isLogin_stateRequest : ¬ IsLogin base (stateRequest base) := fun h => nomatch h.1

@[simp] theorem not_isSummary_loginRequest : ¬ IsSummary base (loginRequest base p) :=
  fun h => nomatch h.1

/-- Paths that differ are different addresses. -/
theorem url_ne {s t : String} (h : s ≠ t) : base ++ s ≠ base ++ t := fun heq =>
  h ((String.append_right_inj base).mp heq)

@[simp] theorem not_isSummary_oldRequest : ¬ IsSummary base (oldRequest base) := fun h =>
  url_ne (by decide) h.2

@[simp] theorem not_isSummary_stateRequest : ¬ IsSummary base (stateRequest base) := fun h =>
  url_ne (by decide) h.2

@[simp] theorem not_isOldSummary_stateRequest : ¬ IsOldSummary base (stateRequest base) := fun h =>
  url_ne (by decide) h.2

@[simp] theorem not_isPublicState_oldRequest : ¬ IsPublicState base (oldRequest base) := fun h =>
  url_ne (by decide) h.2

theorem not_isOldSummary_of_isSummary {r : Request} (h : IsSummary base r) :
    ¬ IsOldSummary base r := fun hold => url_ne (by decide) (h.2.symm.trans hold.2)

theorem not_isPublicState_of_isSummary {r : Request} (h : IsSummary base r) :
    ¬ IsPublicState base r := fun hpublic => url_ne (by decide) (h.2.symm.trans hpublic.2)

end kinds

-- ================================================================ faults

theorem isOrdinary_request (url : String) : IsOrdinary (.request url) := ⟨nofun, nofun⟩

theorem isOrdinary_status (url : String) (code : Nat) : IsOrdinary (.status url code) :=
  ⟨nofun, nofun⟩

theorem isOrdinary_timeout (millis : Nat) : IsOrdinary (.timeout millis) := ⟨nofun, nofun⟩

theorem isOrdinary_of_content {url : String} {reply : Reply} {e : Fault}
    (h : reply.content url = .error e) : IsOrdinary e := by
  cases reply with
  | closed =>
    cases h
    exact isOrdinary_request url
  | silence =>
    cases h
    exact isOrdinary_timeout Http.callPatience
  | response r =>
    simp only [Reply.content] at h
    by_cases hs : r.status = 200
    · rw [if_neg (not_not_intro hs)] at h
      cases hb : Http.readLimited Http.maxCallBody r.body with
      | ok bytes =>
        rw [hb] at h
        cases h
      | error y =>
        rw [hb] at h
        cases h
        cases y with
        | broken => exact isOrdinary_request url
        | stalled => exact isOrdinary_timeout Http.callPatience
    · rw [if_pos hs] at h
      cases h
      exact isOrdinary_status url r.status

theorem isOrdinary_of_decodeBody {read? : Json → Option α} {url : String} {body : Bytes} {e : Fault}
    (h : Http.decodeBody read? url body = .error e) : IsOrdinary e := by
  unfold Http.decodeBody at h
  split at h
  · cases h
  · cases h
    exact ⟨nofun, nofun⟩

/-- What is wrong with a document is not the login. -/
theorem isOrdinary_of_documentResult {url reason : String} {read? : Json → Option α} {reply : Reply}
    {e : Fault} (h : documentResult url reason read? reply = .error e) : IsOrdinary e := by
  unfold documentResult at h
  cases hc : reply.content url with
  | error x =>
    rw [hc] at h
    cases h
    exact isOrdinary_of_content hc
  | ok body =>
    rw [hc] at h
    simp only [Except.bind] at h
    cases hd : Http.decodeBody Json.document? url body with
    | error x =>
      rw [hd] at h
      cases h
      exact isOrdinary_of_decodeBody hd
    | ok j =>
      rw [hd] at h
      simp only at h
      cases hj : read? j with
      | some x =>
        rw [hj] at h
        cases h
      | none =>
        rw [hj] at h
        cases h
        exact ⟨nofun, nofun⟩

/-- A login comes to a failed one just if it is turned down, and it never
comes to a missing one. -/
theorem loginResult_cases (base : String) (reply : Reply) :
    (∃ g, loginResult base reply = .ok g ∧ ¬ TurnedDown reply) ∨
      (∃ reason, loginResult base reply = .error (.authFailed reason) ∧ TurnedDown reply) ∨
      ∃ e, loginResult base reply = .error e ∧ IsOrdinary e ∧ ¬ TurnedDown reply := by
  have hreads (a : LoginAnswer) : reply.reads LoginAnswer.ofJson? = some a ↔
      (reply.content (base ++ "/api/auth")).bind
        (Http.decodeBody LoginAnswer.ofJson? (base ++ "/api/auth")) = .ok a :=
    Reply.decodeBody_eq_ok_iff.symm
  unfold loginResult TurnedDown
  simp only [hreads]
  cases hc : reply.content (base ++ "/api/auth") with
  | error x =>
    -- nothing is read, so only a refusal turns the login down
    have hrefused : x.isUnauthorized = reply.isRefusal := by
      rw [← refused_content (base ++ "/api/auth"), hc]
      rfl
    simp only [grantOfAnswer, hrefused, Except.bind]
    cases hno : reply.isRefusal with
    | true => exact .inr (.inl ⟨_, rfl, .inl rfl⟩)
    | false =>
      refine .inr (.inr ⟨x, rfl, isOrdinary_of_content hc, ?_⟩)
      simp
  | ok body =>
    have hrefused : reply.isRefusal = false := by
      rw [← refused_content (base ++ "/api/auth"), hc]
      rfl
    simp only [grantOfAnswer, grantOfBody, Except.bind, hrefused]
    cases hd : Http.decodeBody LoginAnswer.ofJson? (base ++ "/api/auth") body with
    | error x =>
      refine .inr (.inr ⟨x, rfl, isOrdinary_of_decodeBody hd, ?_⟩)
      simp
    | ok answer =>
      simp only [LoginAnswer.grant?]
      cases hvalid : answer.valid with
      | false => exact .inr (.inl ⟨_, rfl, .inr ⟨answer, rfl, .inl hvalid⟩⟩)
      | true =>
        by_cases hsid : answer.sid = ""
        · rw [if_neg (by simp [hsid])]
          exact .inr (.inl ⟨_, rfl, .inr ⟨answer, rfl, .inr hsid⟩⟩)
        · rw [if_pos (by simp [hsid])]
          refine .inl ⟨_, rfl, ?_⟩
          simp [hvalid, hsid]

-- ========================================================== fresh logins

theorem Followed.exists_right {P Q : Exchange → Prop} (h : Followed P Q log) : ∃ y ∈ log, Q y := by
  induction log with
  | nil => cases h
  | cons x rest ih =>
    rcases h with ⟨-, y, hy, hq⟩ | h
    · exact ⟨y, List.mem_cons_of_mem _ hy, hq⟩
    · obtain ⟨y, hy, hq⟩ := ih h
      exact ⟨y, List.mem_cons_of_mem _ hy, hq⟩

theorem followed_append {P Q : Exchange → Prop} : Followed P Q (log ++ log') ↔
    Followed P Q log ∨ ((∃ x ∈ log, P x) ∧ ∃ y ∈ log', Q y) ∨ Followed P Q log' := by
  induction log with
  | nil => simp [Followed]
  | cons x rest ih =>
    simp only [List.cons_append, Followed, ih, List.mem_append, List.mem_cons, or_and_right,
      exists_or, exists_eq_left]
    grind

theorem loginFailed_cons {x : Exchange} (hx : ¬ IsLogin base x.request) :
    LoginFailed base (x :: log) ↔ LoginFailed base log := by
  simp [LoginFailed, Followed, hx]

/-- Where no login is turned down and no summary refused, no login fails. -/
theorem not_loginFailed (hup : ∀ x ∈ log, IsLogin base x.request → ¬ TurnedDown x.reply)
    (hno : ∀ x ∈ log, IsSummary base x.request → x.reply.isRefusal = false) :
    ¬ LoginFailed base log := by
  intro h
  rcases h with ⟨x, hx, hlogin, hdown⟩ | h
  · exact hup x hx hlogin hdown
  · obtain ⟨y, hy, hsummary, hrefused⟩ := h.exists_right
    rw [hno y hy hsummary] at hrefused
    cases hrefused

theorem isOrdinary_of_tried {c : Option Credentials} {e : Fault}
    (ht : Tried (summaryErrand base) c log (.error e)) : IsOrdinary e := by
  cases ht with
  | sent hc ha => exact isOrdinary_of_documentResult ha
  | unsent hc => exact ⟨nofun, nofun⟩

/-- What is asked for by an errand, and that it is answered as the result
says. -/
theorem tried_exchange {c : Option Credentials} {x : Exchange}
    (ht : Tried (summaryErrand base) c log a) (hx : x ∈ log) :
    x.request = (summaryErrand base).request c ∧ x.reply.isRefusal = refused a := by
  cases ht with
  | sent hc ha =>
    rw [List.mem_singleton.mp hx, ← ha, (summaryErrand base).refused_result]
    exact ⟨rfl, rfl⟩
  | unsent hc => cases hx

theorem renewed_authRequired_iff (hr : Renewed (summaryErrand base) base password log a) :
    a = .error .authRequired ↔ password = none := by
  cases hr with
  | unset => simp
  | @failed p reply fault hl =>
    rcases loginResult_cases base reply with ⟨g, hg, -⟩ | ⟨reason, hg, -⟩ | ⟨e, hg, he, -⟩
    · cases hl.symm.trans hg
    · cases hl.symm.trans hg
      simp
    · cases hl.symm.trans hg
      simp [he.1]
  | helped hl ht ha =>
    constructor
    · intro h
      rw [h] at ht
      exact absurd rfl (isOrdinary_of_tried ht).1
    · nofun
  | vain hl hno => simp

theorem renewed_authFailed_iff (hr : Renewed (summaryErrand base) base password log a) :
    (∃ reason, a = .error (.authFailed reason)) ↔ password ≠ none ∧ LoginFailed base log := by
  cases hr with
  | unset => simp
  | @failed p reply fault hl =>
    have hlog : LoginFailed base [⟨loginRequest base p, reply⟩] ↔ TurnedDown reply := by
      simp [LoginFailed, Followed]
    rw [hlog]
    rcases loginResult_cases base reply with ⟨g, hg, -⟩ | ⟨reason, hg, hdown⟩ | ⟨e, hg, he, hup⟩
    · cases hl.symm.trans hg
    · cases hl.symm.trans hg
      simp [hdown]
    · cases hl.symm.trans hg
      simp [hup, he.2]
  | @helped p reply g rest _ hl ht ha =>
    have hup : ¬ TurnedDown reply := by
      rcases loginResult_cases base reply with ⟨g', -, h⟩ | ⟨reason, hg, -⟩ | ⟨e, hg, -⟩
      · exact h
      · cases hl.symm.trans hg
      · cases hl.symm.trans hg
    have hgood : ¬ LoginFailed base (⟨loginRequest base p, reply⟩ :: rest) := by
      apply not_loginFailed
      · intro x hx hlogin
        rcases List.mem_cons.mp hx with rfl | hx
        · exact hup
        · rw [(tried_exchange ht hx).1] at hlogin
          exact absurd hlogin not_isLogin_summaryErrand
      · intro x hx hsummary
        rcases List.mem_cons.mp hx with rfl | hx
        · exact absurd hsummary not_isSummary_loginRequest
        · rw [(tried_exchange ht hx).2, ha]
    constructor
    · intro ⟨reason, h⟩
      rw [h] at ht
      exact absurd rfl ((isOrdinary_of_tried ht).2 reason)
    · intro h
      exact absurd h.2 hgood
  | vain hl hno => simp [LoginFailed, Followed, hno]

-- ========================================================= generation 6

/-- What a collection asks for on the path of generation 6. -/
theorem v6Course_request {x : Exchange} (hc : V6Course base password found log a) (hx : x ∈ log) :
    IsSummary base x.request ∨ IsLogin base x.request := by
  have htried {c : Option Credentials} {l : List Exchange} {b : Except Fault Report}
      (ht : Tried (summaryErrand base) c l b) (hx : x ∈ l) : IsSummary base x.request := by
    rw [(tried_exchange ht hx).1]
    exact isSummary_summaryErrand
  have hrenewed {l : List Exchange} {b : Except Fault Report}
      (hr : Renewed (summaryErrand base) base password l b) (hx : x ∈ l) :
      IsSummary base x.request ∨ IsLogin base x.request := by
    cases hr with
    | unset => cases hx
    | failed hl =>
      rw [List.mem_singleton.mp hx]
      exact .inr isLogin_loginRequest
    | helped hl ht ha =>
      rcases List.mem_cons.mp hx with rfl | hx
      · exact .inr isLogin_loginRequest
      · exact .inl (htried ht hx)
    | vain hl hno =>
      rcases List.mem_cons.mp hx with rfl | hx
      · exact .inr isLogin_loginRequest
      · rw [List.mem_singleton.mp hx]
        exact .inl isSummary_summaryErrand
  cases hc with
  | plain ht ha => exact .inl (htried ht hx)
  | lone hno hf hr =>
    rcases List.mem_cons.mp hx with rfl | hx
    · exact .inl isSummary_summaryErrand
    · exact hrenewed hr hx
  | cached hno hf hp =>
    rcases List.mem_cons.mp hx with rfl | hx
    · exact .inl isSummary_summaryErrand
    · cases hp with
      | settled ht ha => exact .inl (htried ht hx)
      | refused hsent hno' hr =>
        rcases List.mem_cons.mp hx with rfl | hx
        · exact .inl isSummary_summaryErrand
        · exact hrenewed hr hx

/-- Either the summary is locked, and then the result is that of a fresh
login, or it is not, and then the login is not what is wrong. -/
theorem v6Course_cases (hc : V6Course base password found log a) :
    (Locked base found log ∧ ∃ rest, Renewed (summaryErrand base) base password rest a ∧
      (LoginFailed base log ↔ LoginFailed base rest)) ∨
    (¬ Locked base found log ∧ ∀ e, a = .error e → IsOrdinary e) := by
  cases hc with
  | plain ht ha =>
    refine .inr ⟨?_, fun e he => ?_⟩
    · intro h
      obtain ⟨⟨x, hx, -, -, hno⟩, -⟩ := h
      rw [(tried_exchange ht hx).2, ha] at hno
      cases hno
    · rw [he] at ht
      exact isOrdinary_of_tried ht
  | @lone reply rest _ hno hf hr =>
    refine .inl ⟨⟨?_, ?_⟩, rest, hr, loginFailed_cons not_isLogin_summaryErrand⟩
    · exact ⟨_, List.mem_cons_self, isSummary_summaryErrand, rfl, hno⟩
    · rw [hf]
      nofun
  | @cached reply c rest _ hno hf hp =>
    cases hp with
    | settled ht ha =>
      refine .inr ⟨?_, fun e he => ?_⟩
      · intro h
        obtain ⟨x, hx, -, hx', hno'⟩ := h.2 c hf
        rcases List.mem_cons.mp hx with rfl | hx
        · cases hx'
        · rw [(tried_exchange ht hx).2, ha] at hno'
          cases hno'
      · rw [he] at ht
        exact isOrdinary_of_tried ht
    | @refused reply' rest' _ hsent hno' hr =>
      refine .inl ⟨⟨?_, ?_⟩, rest', hr, ?_⟩
      · exact ⟨_, List.mem_cons_self, isSummary_summaryErrand, rfl, hno⟩
      · intro c' hc'
        refine ⟨_, List.mem_cons_of_mem _ List.mem_cons_self, isSummary_summaryErrand, ?_, hno'⟩
        rw [← hc', hf]
        rfl
      · rw [loginFailed_cons not_isLogin_summaryErrand, loginFailed_cons not_isLogin_summaryErrand]

theorem v6Course_authRequired_iff (hc : V6Course base password found log a) :
    a = .error .authRequired ↔ Locked base found log ∧ password = none := by
  rcases v6Course_cases hc with ⟨hlocked, rest, hr, -⟩ | ⟨hopen, hordinary⟩
  · rw [renewed_authRequired_iff hr]
    simp [hlocked]
  · constructor
    · intro h
      exact absurd rfl (hordinary _ h).1
    · intro h
      exact absurd h.1 hopen

theorem v6Course_authFailed_iff (hc : V6Course base password found log a) :
    (∃ reason, a = .error (.authFailed reason)) ↔
      Locked base found log ∧ password ≠ none ∧ LoginFailed base log := by
  rcases v6Course_cases hc with ⟨hlocked, rest, hr, hlogin⟩ | ⟨hopen, hordinary⟩
  · rw [renewed_authFailed_iff hr, hlogin]
    simp [hlocked]
  · constructor
    · intro ⟨reason, h⟩
      exact absurd rfl ((hordinary _ h).2 reason)
    · intro h
      exact absurd h.1 hopen

end HostTelemetry.PiHole
