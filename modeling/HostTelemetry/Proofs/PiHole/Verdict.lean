/-
What a collection asks, and what it reports, said by the answers alone.

# The questions

First comes the summary of generation 5. If it is not given, the summary of
generation 6 is asked for without a session; if that is refused, with the
session from the cache, if one is found and can be sent; if there is none or
it is refused as well, and there is a password, a login follows, and the
summary once more with what it grants. The public state is asked for at last,
after every fault but a failed login. `Course` says so, and leaves no choice:
each request follows from the answers before it.

# The verdict

Where the summary of generation 5 is given, that is what is reported. Where
the summary of generation 6 is locked, the password decides. Without one the
report says that a login is wanted; with one the collection fails with the
login just if the login fails, and never hides that behind the public state.
Every other fault of generation 6 gives way to the public state if there is
one, and is passed on if not.

`Classified` says all of it in both directions, so that an outage is no
failed login and a wrong password no outage, and `classifies_collect` says
both of every collection: the answers that are classified are those to the
questions above. The proof is by cases over the courses (`course_collect`),
and the log is taken apart as it was put together: the first request, the
path of generation 6, and the request for the public state.
-/
import HostTelemetry.Proofs.PiHole.Answers
import HostTelemetry.Proofs.PiHole.FewLogins

namespace HostTelemetry.PiHole

open Http (Credentials Exchange Reply Request)
open Http.Dialogue (Ends Scene Server)
open Service (Fault Record Report)

variable {σ : Type} {base : String} {password : Option String}
  {found : Option Credentials} {v6 a : Except Fault Report} {log log' : List Exchange}

-- =============================================================== reports

theorem version_of_oldSummary? {reply : Reply} {report : Report}
    (h : oldSummary? reply = some report) : report.version = some v5 := by
  obtain ⟨j, -, hj⟩ := Option.bind_eq_some_iff.mp h
  obtain ⟨queries, -, hreport⟩ := Option.bind_eq_some_iff.mp hj
  cases hreport
  rfl

/-- The report of a summary of generation 6 has four figures, which tells it
from the reports without a summary. -/
theorem shape_of_summary? {reply : Reply} {report : Report} (h : summary? reply = some report) :
    report.version = some PiHole.v6 ∧ report.summary.length = 4 := by
  obtain ⟨j, -, hj⟩ := Option.bind_eq_some_iff.mp h
  obtain ⟨queries, -, hreport⟩ := Option.bind_eq_some_iff.mp hj
  cases hreport
  exact ⟨rfl, rfl⟩

theorem length_authRequiredReport (state : Option String) :
    (authRequiredReport state).summary.length = 2 + state.toList.length := by
  cases state <;> rfl

theorem authRequiredReport_inj {state state' : Option String}
    (h : authRequiredReport state = authRequiredReport state') : state = state' := by
  have hsummary : (authRequiredReport state).summary = (authRequiredReport state').summary := by
    rw [h]
  cases state <;> cases state' <;>
    simp_all [authRequiredReport, Report.ofDetails, Report.withVersion]

theorem blockingReport_inj {state state' : String}
    (h : blockingReport state = blockingReport state') : state = state' := by
  have hsummary : (blockingReport state).summary = (blockingReport state').summary := by
    rw [h]
  simpa [blockingReport, Report.ofDetails, Report.withVersion] using hsummary

theorem authRequiredReport_ne_blockingReport (state : Option String) (state' : String) :
    authRequiredReport state ≠ blockingReport state' := by
  intro h
  have hlength := length_authRequiredReport state
  rw [h] at hlength
  have hone : (blockingReport state').summary.length = 1 := rfl
  omega

theorem v6Course_report {report : Report} (hc : V6Course base password found log (.ok report)) :
    ∃ reply, summary? reply = some report := by
  have htried {c : Option Credentials} {l : List Exchange}
      (ht : Tried (summaryErrand base) c l (.ok report)) : ∃ reply, summary? reply = some report := by
    cases ht with
    | @sent reply _ hc ha => exact ⟨reply, documentResult_eq_ok_iff.mp ha⟩
  have hrenewed {l : List Exchange}
      (hr : Renewed (summaryErrand base) base password l (.ok report)) :
      ∃ reply, summary? reply = some report := by
    cases hr with
    | helped hl ht ha => exact htried ht
  cases hc with
  | plain ht ha => exact htried ht
  | lone hno hf hr => exact hrenewed hr
  | cached hno hf hp =>
    cases hp with
    | settled ht ha => exact htried ht
    | refused hsent hno' hr => exact hrenewed hr

-- ========================================================== public state

section shownState

variable {e : Fault}

theorem publicCourse_version {report : Report} (hp : PublicCourse base e log (.ok report)) :
    report.version = some PiHole.v6 := by
  cases hp with
  | locked => rfl
  | replaced he hs => rfl

theorem publicCourse_authRequired_iff (hp : PublicCourse base e log a) :
    (∃ state, a = .ok (authRequiredReport state)) ↔ e = .authRequired := by
  cases hp with
  | @locked reply => exact iff_of_true ⟨publicState? reply, rfl⟩ rfl
  | passed => exact iff_of_false (fun ⟨_, h⟩ => nomatch h) nofun
  | replaced he hs =>
    refine iff_of_false ?_ he.1
    intro ⟨state, h⟩
    exact authRequiredReport_ne_blockingReport state _ (Except.ok.inj h).symm
  | kept he hs => exact iff_of_false (fun ⟨_, h⟩ => nomatch h) he.1

theorem publicCourse_authFailed_iff (hp : PublicCourse base e log a) :
    (∃ reason, a = .error (.authFailed reason)) ↔ ∃ reason, e = .authFailed reason := by
  cases hp with
  | locked => simp
  | passed => simp
  | replaced he hs => simp [he.2]
  | kept he hs => simp

/-- The public state as it is shown when a login is missing. -/
theorem publicCourse_state {state : Option String}
    (hp : PublicCourse base e log (.ok (authRequiredReport state))) (b : String) :
    state = some b ↔ ∃ x ∈ log, publicState? x.reply = some b := by
  generalize hreport : authRequiredReport state = report at hp
  cases hp with
  | locked =>
    rw [authRequiredReport_inj hreport]
    simp
  | replaced he hs => exact absurd hreport (authRequiredReport_ne_blockingReport state _)

/-- A fault that has nothing to do with the login. -/
theorem publicCourse_ordinary (hp : PublicCourse base e log a) (he : IsOrdinary e) :
    (∀ state, a = .ok (blockingReport state) ↔ ∃ x ∈ log, publicState? x.reply = some state) ∧
      ((∀ state, ¬ ∃ x ∈ log, publicState? x.reply = some state) → a = .error e) := by
  cases hp with
  | locked => exact absurd rfl he.1
  | @passed reason => exact absurd rfl (he.2 reason)
  | @replaced _ reply state _ hs =>
    refine ⟨fun state' => ?_, fun hnone => ?_⟩
    · simp only [Except.ok.injEq, List.mem_singleton, exists_eq_left, hs, Option.some.injEq]
      exact ⟨blockingReport_inj, congrArg blockingReport⟩
    · exact absurd ⟨_, List.mem_singleton_self _, hs⟩ (hnone state)
  | kept _ hs => simp [hs]

end shownState

-- =============================================================== verdict

section whole

variable {e : Fault} {reply : Reply}

theorem publicCourse_request {x : Exchange} (hp : PublicCourse base e log a) (hx : x ∈ log) :
    x.request = stateRequest base := by
  cases hp with
  | passed => cases hx
  | locked => rw [List.mem_singleton.mp hx]
  | replaced he hs => rw [List.mem_singleton.mp hx]
  | kept he hs => rw [List.mem_singleton.mp hx]

/-- What is among the exchanges of a whole collection. -/
theorem exists_whole {first : Exchange} {p : Exchange → Prop} :
    (∃ x ∈ first :: (log ++ log'), p x) ↔ p first ∨ (∃ x ∈ log, p x) ∨ ∃ x ∈ log', p x := by
  simp only [List.mem_cons, List.mem_append, or_and_right, exists_or, exists_eq_left]

theorem refusedTo_whole {c : Option Credentials} (hlog' : ∀ x ∈ log', x.request = stateRequest base) :
    RefusedTo base c (⟨oldRequest base, reply⟩ :: (log ++ log')) ↔ RefusedTo base c log := by
  unfold RefusedTo
  rw [exists_whole]
  constructor
  · intro h
    rcases h with ⟨hsummary, -⟩ | h | ⟨x, hx, hsummary, -⟩
    · exact absurd hsummary not_isSummary_oldRequest
    · exact h
    · rw [hlog' x hx] at hsummary
      exact absurd hsummary not_isSummary_stateRequest
  · exact fun h => .inr (.inl h)

theorem locked_whole (hlog' : ∀ x ∈ log', x.request = stateRequest base) :
    Locked base found (⟨oldRequest base, reply⟩ :: (log ++ log')) ↔ Locked base found log := by
  unfold Locked
  simp only [refusedTo_whole hlog']

theorem loginFailed_whole (hlog' : ∀ x ∈ log', x.request = stateRequest base) :
    LoginFailed base (⟨oldRequest base, reply⟩ :: (log ++ log')) ↔ LoginFailed base log := by
  have hnoLogin : ∀ x ∈ log', ¬ IsLogin base x.request := by
    intro x hx
    rw [hlog' x hx]
    exact not_isLogin_stateRequest
  have hnoSummary : ∀ x ∈ log', ¬ (IsSummary base x.request ∧ x.reply.isRefusal = true) := by
    intro x hx h
    rw [hlog' x hx] at h
    exact not_isSummary_stateRequest h.1
  rw [loginFailed_cons not_isLogin_oldRequest]
  unfold LoginFailed
  rw [followed_append]
  constructor
  · intro h
    rcases h with ⟨x, hx, hlogin, hdown⟩ | h | ⟨-, y, hy, hq⟩ | h
    · rcases List.mem_append.mp hx with hx | hx
      · exact .inl ⟨x, hx, hlogin, hdown⟩
      · exact absurd hlogin (hnoLogin x hx)
    · exact .inr h
    · exact absurd hq (hnoSummary y hy)
    · obtain ⟨y, hy, hq⟩ := h.exists_right
      exact absurd hq (hnoSummary y hy)
  · intro h
    rcases h with ⟨x, hx, hlogin⟩ | h
    · exact .inl ⟨x, List.mem_append_left _ hx, hlogin⟩
    · exact .inr (.inl h)

theorem gaveOldSummary_whole {report : Report}
    (hlog : ∀ x ∈ log, IsSummary base x.request ∨ IsLogin base x.request)
    (hlog' : ∀ x ∈ log', x.request = stateRequest base) :
    GaveOldSummary base (⟨oldRequest base, reply⟩ :: (log ++ log')) report
      ↔ oldSummary? reply = some report := by
  unfold GaveOldSummary
  rw [exists_whole]
  constructor
  · intro h
    rcases h with ⟨-, hgave⟩ | ⟨x, hx, hold, -⟩ | ⟨x, hx, hold, -⟩
    · exact hgave
    · rcases hlog x hx with h | h
      · exact absurd hold (not_isOldSummary_of_isSummary h)
      · exact absurd h (not_isLogin_of_isOldSummary hold)
    · rw [hlog' x hx] at hold
      exact absurd hold not_isOldSummary_stateRequest
  · exact fun h => .inl ⟨isOldSummary_oldRequest, h⟩

theorem gaveState_whole {state : String}
    (hlog : ∀ x ∈ log, IsSummary base x.request ∨ IsLogin base x.request)
    (hlog' : ∀ x ∈ log', x.request = stateRequest base) :
    GaveState base (⟨oldRequest base, reply⟩ :: (log ++ log')) state
      ↔ ∃ x ∈ log', publicState? x.reply = some state := by
  unfold GaveState
  rw [exists_whole]
  constructor
  · intro h
    rcases h with ⟨hpublic, -⟩ | ⟨x, hx, hpublic, -⟩ | ⟨x, hx, -, hgave⟩
    · exact absurd hpublic not_isPublicState_oldRequest
    · rcases hlog x hx with h | h
      · exact absurd hpublic (not_isPublicState_of_isSummary h)
      · exact nomatch h.1.symm.trans hpublic.1
    · exact ⟨x, hx, hgave⟩
  · intro ⟨x, hx, hgave⟩
    right
    right
    refine ⟨x, hx, ?_, hgave⟩
    rw [hlog' x hx]
    exact isPublicState_stateRequest

end whole

/-- What the result of a collection has to do with the answers it was given,
where `v6` is what the path of generation 6 comes to. -/
structure Classified (base : String) (password : Option String) (found : Option Credentials)
    (v6 : Except Fault Report) (log : List Exchange) (a : Except Fault Report) : Prop where
  /-- A report of generation 5 is the one that its endpoint gave. -/
  old : ∀ report, (a = .ok report ∧ report.version = some v5) ↔ GaveOldSummary base log report
  /-- A login is reported as missing just if the summary is locked and there
  is no password. -/
  authRequired : (∃ state, a = .ok (authRequiredReport state)) ↔
    Locked base found log ∧ password = none
  /-- That report shows the public state, if there is one. -/
  state : ∀ state, a = .ok (authRequiredReport state) →
    ∀ b, state = some b ↔ GaveState base log b
  /-- The login is what failed just if the summary is locked, there is a
  password, and the login fails. -/
  authFailed : (∃ reason, a = .error (.authFailed reason)) ↔
    Locked base found log ∧ password ≠ none ∧ LoginFailed base log
  /-- A failed login is not hidden. -/
  unhidden : (∀ report, ¬ GaveOldSummary base log report) →
    ∀ reason, v6 = .error (.authFailed reason) → a = .error (.authFailed reason)
  /-- Every other fault gives way to the public state, and is passed on if
  there is none. -/
  other : (∀ report, ¬ GaveOldSummary base log report) → ∀ e, v6 = .error e →
    ¬ (Locked base found log ∧ (password = none ∨ LoginFailed base log)) →
    (∀ state, a = .ok (blockingReport state) ↔ GaveState base log state) ∧
    ((∀ state, ¬ GaveState base log state) → a = .error e)
  /-- And a summary of generation 6 is reported as it is. -/
  shown : (∀ report, ¬ GaveOldSummary base log report) →
    ∀ report, v6 = .ok report → a = .ok report

theorem ne_authRequiredReport_of_summary? {reply : Reply} {report : Report}
    (h : summary? reply = some report) (state : Option String) :
    report ≠ authRequiredReport state := by
  intro heq
  have hfour := (shape_of_summary? h).2
  rw [heq, length_authRequiredReport] at hfour
  cases state <;> simp at hfour

theorem version_ne {report : Report} (h : report.version = some PiHole.v6) :
    report.version ≠ some v5 := by
  rw [h]
  decide

theorem classified_old {reply : Reply} {report : Report} (ho : oldSummary? reply = some report) :
    Classified base password found v6 [⟨oldRequest base, reply⟩] (.ok report) := by
  have hversion := version_of_oldSummary? ho
  have hgave (report' : Report) : GaveOldSummary base [⟨oldRequest base, reply⟩] report'
      ↔ report = report' := by
    have hwhole : GaveOldSummary base (⟨oldRequest base, reply⟩ :: ([] ++ [])) report'
        ↔ oldSummary? reply = some report' := gaveOldSummary_whole nofun nofun
    rw [ho, Option.some.injEq] at hwhole
    exact hwhole
  have hopen : ¬ Locked base found [⟨oldRequest base, reply⟩] := by
    intro h
    obtain ⟨x, hx, hsummary, -⟩ := h.1
    rw [List.mem_singleton.mp hx] at hsummary
    exact not_isSummary_oldRequest hsummary
  have hne (state : Option String) : report ≠ authRequiredReport state := by
    intro heq
    rw [heq] at hversion
    exact absurd (Option.some.inj hversion) (by decide)
  exact {
    old := by
      intro report'
      rw [hgave, Except.ok.injEq]
      constructor
      · exact fun h => h.1
      · intro h
        exact ⟨h, h ▸ hversion⟩
    authRequired := by simp [hopen, hne]
    state := by simp [hne]
    authFailed := by simp [hopen]
    unhidden := fun hnone => absurd ((hgave report).mpr rfl) (hnone report)
    other := fun hnone => absurd ((hgave report).mpr rfl) (hnone report)
    shown := fun hnone => absurd ((hgave report).mpr rfl) (hnone report) }

theorem classified_shown {reply : Reply} {report : Report} (ho : oldSummary? reply = none)
    (hv : v6 = .ok report) (hc : V6Course base password found log (.ok report)) :
    Classified base password found v6 (⟨oldRequest base, reply⟩ :: log) (.ok report) := by
  obtain ⟨reply', hsummary⟩ := v6Course_report hc
  have hversion := (shape_of_summary? hsummary).1
  have hne := ne_authRequiredReport_of_summary? hsummary
  have hlog : ∀ x ∈ log, IsSummary base x.request ∨ IsLogin base x.request :=
    fun _ => v6Course_request hc
  have hquiet : ∀ x ∈ ([] : List Exchange), x.request = stateRequest base := nofun
  have hrequired := v6Course_authRequired_iff hc
  have hfailed := v6Course_authFailed_iff hc
  rw [← List.append_nil log]
  exact {
    old := by
      intro report'
      rw [gaveOldSummary_whole hlog hquiet, ho, Except.ok.injEq]
      constructor
      · intro ⟨h, hold⟩
        rw [← h, hversion] at hold
        exact absurd hold (by decide)
      · nofun
    authRequired := by
      rw [locked_whole hquiet, ← hrequired]
      simp [hne]
    state := by simp [hne]
    authFailed := by
      rw [locked_whole hquiet, loginFailed_whole hquiet]
      exact hfailed
    unhidden := fun _ _ he => nomatch hv.symm.trans he
    other := fun _ _ he => nomatch hv.symm.trans he
    shown := fun _ _ hr => hv.symm.trans hr }

theorem classified_failed {reply : Reply} {e : Fault} (ho : oldSummary? reply = none)
    (hv : v6 = .error e) (hc : V6Course base password found log (.error e))
    (hp : PublicCourse base e log' a) :
    Classified base password found v6 (⟨oldRequest base, reply⟩ :: (log ++ log')) a := by
  have hlog : ∀ x ∈ log, IsSummary base x.request ∨ IsLogin base x.request :=
    fun _ => v6Course_request hc
  have hquiet : ∀ x ∈ log', x.request = stateRequest base := fun _ => publicCourse_request hp
  have hrequired := v6Course_authRequired_iff hc
  have hfailed := v6Course_authFailed_iff hc
  simp only [Except.error.injEq] at hrequired hfailed
  exact {
    old := by
      intro report
      rw [gaveOldSummary_whole hlog hquiet, ho]
      refine iff_of_false ?_ nofun
      intro ⟨ha, hold⟩
      rw [ha] at hp
      exact version_ne (publicCourse_version hp) hold
    authRequired := by
      rw [locked_whole hquiet, publicCourse_authRequired_iff hp, hrequired]
    state := by
      intro state ha b
      rw [ha] at hp
      rw [gaveState_whole hlog hquiet, publicCourse_state hp]
    authFailed := by
      rw [locked_whole hquiet, loginFailed_whole hquiet, publicCourse_authFailed_iff hp, hfailed]
    unhidden := by
      intro _ reason he
      cases hv.symm.trans he
      cases hp with
      | passed => rfl
      | replaced he hs => exact absurd rfl (he.2 reason)
      | kept he hs => rfl
    other := by
      intro _ e' he hno
      cases hv.symm.trans he
      rw [locked_whole hquiet, loginFailed_whole hquiet] at hno
      have hordinary : IsOrdinary e := by
        refine ⟨fun h => ?_, fun reason h => ?_⟩
        · obtain ⟨hlocked, hnone⟩ := hrequired.mp h
          exact hno ⟨hlocked, .inl hnone⟩
        · obtain ⟨hlocked, -, hlogin⟩ := hfailed.mp ⟨reason, h⟩
          exact hno ⟨hlocked, .inr hlogin⟩
      simp only [gaveState_whole hlog hquiet]
      exact publicCourse_ordinary hp hordinary
    shown := fun _ _ hr => nomatch hv.symm.trans hr }

theorem Course.classified (hc : Course base password found v6 log a) :
    Classified base password found v6 log a := by
  cases hc with
  | old ho => exact classified_old ho
  | shown ho hv hc => exact classified_shown ho hv hc
  | failed ho hv hc hp => exact classified_failed ho hv hc hp

/-- What a server has become when it has answered some requests. -/
def serverAfter (srv : Server σ) (requests : List Request) (server : σ) : σ :=
  requests.foldl (fun server r => (srv.reply r server).2) server

/-- The cache is looked into after two requests: a session in it is found if it
has a number and time left. -/
theorem sessionFound_eq (srv : Server σ) (base : String) (s : Scene σ) :
    let moment := srv.now (serverAfter srv
      [oldRequest base, (summaryErrand base).request none] s.server)
    sessionFound srv base s = (s.cache.filter fun x =>
      x.credentials.sid ≠ "" && moment < x.expiresAt).map (·.credentials) := rfl

/-- Every collection asks what it has to, in the order above, and is
classified by the answers, whatever is in the cache, whether there is a
password or not, and however the server answers. An empty password is none. -/
theorem classifies_collect (srv : Server σ) (r : Record) (s : Scene σ) :
    let password := (r.notes.get? "password").filter (· ≠ "")
    let moment := srv.now (serverAfter srv
      [oldRequest r.baseUrl, (summaryErrand r.baseUrl).request none] s.server)
    let found := (s.cache.filter fun x =>
      x.credentials.sid ≠ "" && moment < x.expiresAt).map (·.credentials)
    Ends srv (collect r) s fun a _ log => ∃ v6,
      Course r.baseUrl password found v6 log a ∧ Classified r.baseUrl password found v6 log a := by
  intro password moment found
  have hpassword : r.note? passwordNote = password := rfl
  have hfound : sessionFound srv r.baseUrl s = found := sessionFound_eq srv r.baseUrl s
  refine Ends.imp (course_collect r s) fun a _ log hcourse => ?_
  rw [hpassword, hfound] at hcourse
  exact ⟨v6Outcome srv r s, hcourse, hcourse.classified⟩

/-- A server of generation 6 that turns down every login, though it shows the
public state. -/
def gatekeeper (base : String) : Server Unit where
  reply r _ :=
    if r.url = base ++ "/api/dns/blocking" then
      (answerOf (Text.encode "\x7b\"blocking\": \"enabled\"\x7d"), ())
    else if r.url = base ++ "/admin/api.php?summaryRaw" then (.response { status := 404 }, ())
    else (.response { status := 401 }, ())
  now _ := 0

/-- A wrong password is no outage, and the public state is not asked for. -/
theorem wrong_password_is_not_hidden :
    let d := collect (recordOf "http://h" "p")
    let s : Scene Unit := { server := () }
    (∃ reason, (d.run (gatekeeper "http://h") s).1 = .error (.authFailed reason)) ∧
      (d.exchanges (gatekeeper "http://h") s).map (fun x => (x.request.url, x.reply.isRefusal)) =
        [("http://h/admin/api.php?summaryRaw", false), ("http://h/api/stats/summary", true),
          ("http://h/api/auth", true)] := by
  intro d s
  have hlog : d.exchanges (gatekeeper "http://h") s =
      [⟨oldRequest "http://h", .response { status := 404 }⟩,
        ⟨(summaryErrand "http://h").request none, .response { status := 401 }⟩,
        ⟨loginRequest "http://h" "p", .response { status := 401 }⟩] := by
    rfl
  obtain ⟨v6, -, hverdict⟩ := classifies_collect (gatekeeper "http://h") (recordOf "http://h" "p") s
  have hlocked : RefusedTo "http://h" none (d.exchanges (gatekeeper "http://h") s) := by
    rw [hlog]
    exact ⟨_, List.mem_cons_of_mem _ List.mem_cons_self, isSummary_summaryErrand, rfl, rfl⟩
  have hfailed : LoginFailed "http://h" (d.exchanges (gatekeeper "http://h") s) := by
    rw [hlog]
    exact .inl ⟨_, List.mem_cons_of_mem _ (List.mem_cons_of_mem _ List.mem_cons_self),
      isLogin_loginRequest, .inl rfl⟩
  have hpassword : ((recordOf "http://h" "p").notes.get? "password").filter (· ≠ "") ≠ none := by
    decide +kernel
  refine ⟨hverdict.authFailed.mpr ⟨⟨hlocked, nofun⟩, hpassword, hfailed⟩, ?_⟩
  rw [hlog]
  decide +kernel

end HostTelemetry.PiHole
