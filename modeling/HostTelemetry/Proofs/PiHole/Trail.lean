/-
Runs of the plugin against servers that answer as they like, and what can
be said of its session over a whole run.

# Runs

A run is a list of turns: collections and actions for any services, and in
between whatever happens without the plugin, be it that time passes or that
a server changes its mind. The trail of a run is all that the plugin sends,
each request with its reply and with the base address of the service that
the turn was about.

# The engine

Each turn leads from the session held before it to the one held after it
(`keeps_collect`, `keeps_act`), and so does the run (`custody_trail`, by
induction on the turns). What is held at any point therefore has an origin
in the trail so far: the last login that was granted.

# What is bound to what

The plugin has one place for a session, not one for each service. So what
it presents is always the session of its last granted login, and it goes to
the service that the turn is about. Both are the same service as long as the
service stays where it is. Where it moves, the first summary that wants a
login is asked for with the session of the old place
(`moved_service_is_shown_old_session`).

A redirect that the client follows counts as a part of answering: a request
is here what the plugin asks the client for. The client goes on with the same
login, to another host too, as the second part of that theorem shows.
-/
import HostTelemetry.Proofs.Http.Redirects
import HostTelemetry.Proofs.PiHole.Custody
import HostTelemetry.Proofs.PiHole.FewLogins

namespace HostTelemetry.PiHole

open Http (Credentials Reply Request inFull)
open Http.Dialogue (Scene Server)
open Service (Params Record)

variable {σ : Type} {srv : Server σ}

-- ================================================================== runs

/-- What happens to a plugin and the servers it speaks to. -/
inductive Turn (σ : Type) where
  | collect (r : Record)
  | act (r : Record) (action : String) (params : Params)
  /-- Something happens without the plugin. -/
  | meanwhile (f : σ → σ)

/-- The scene after a turn. -/
def Turn.step (srv : Server σ) : Turn σ → Scene σ → Scene σ
  | .collect r, s => ((PiHole.collect r).run srv s).2
  | .act r action params, s => ((PiHole.act r action params).run srv s).2
  | .meanwhile f, s => { s with server := f s.server }

/-- What the plugin says in a turn, and what it is answered. -/
def Turn.said (srv : Server σ) : Turn σ → Scene σ → List Spoken
  | .collect r, s => spoken r.baseUrl ((PiHole.collect r).exchanges srv s)
  | .act r action params, s => spoken r.baseUrl ((PiHole.act r action params).exchanges srv s)
  | .meanwhile _, _ => []

/-- What the plugin says in a run, and what it is answered. -/
def trail (srv : Server σ) : List (Turn σ) → Scene σ → List Spoken :=
  along (Turn.step srv) (Turn.said srv)

/-- A turn leads from what was held before it to what is held after it. -/
theorem custody_said (t : Turn σ) (s : Scene σ) :
    Custody (held s) (t.said srv s) (held (t.step srv s)) := by
  cases t with
  | collect r => exact keeps_collect r s
  | act r action params => exact keeps_act r action params s
  | meanwhile f => exact .nil

/-- And so does a run. -/
theorem custody_trail (srv : Server σ) (turns : List (Turn σ)) (s : Scene σ) :
    Custody (held s) (trail srv turns s) (held (go (Turn.step srv) turns s)) := by
  induction turns generalizing s with
  | nil => exact .nil
  | cons t rest ih => exact (custody_said t s).append (ih (t.step srv s))

-- ================================================================ grants

/-- The credentials were granted in this exchange: a login at the service,
which was answered with the status 200, and with these credentials and that
they are good. -/
structure IsGrantOf (c : Credentials) (x : Spoken) : Prop where
  login : IsLogin x.base x.request
  status : ∃ r, x.reply = .response r ∧ r.status = 200
  good : ∃ a, x.reply.reads LoginAnswer.ofJson? = some a ∧ a.valid = true ∧ ⟨a.sid, a.csrf⟩ = c

/-- Only an answer with the status 200 is read. -/
theorem status_of_reads {α : Type} {read? : Json → Option α} {reply : Reply} {a : α}
    (h : reply.reads read? = some a) : ∃ r, reply = .response r ∧ r.status = 200 := by
  cases reply with
  | closed => cases h
  | silence => cases h
  | response r =>
    by_cases hs : r.status = 200
    · exact ⟨r, rfl, hs⟩
    · simp [Reply.reads, Reply.bytes?, hs] at h

/-- A session that is granted has a number. -/
theorem granted?_eq_some_iff {x : Spoken} {c : Credentials} :
    x.granted? = some c ↔ IsGrantOf c x ∧ c.sid ≠ "" := by
  constructor
  · intro h
    obtain ⟨hlogin, h⟩ := Option.ite_none_right_eq_some.mp h
    obtain ⟨g, hg, rfl⟩ := Option.map_eq_some_iff.mp h
    obtain ⟨a, ha, hgrant⟩ := Option.bind_eq_some_iff.mp hg
    obtain ⟨hgood, hgrant⟩ := Option.ite_none_right_eq_some.mp hgrant
    cases hgrant
    obtain ⟨hvalid, hsid⟩ := Bool.and_eq_true_iff.mp hgood
    exact ⟨⟨hlogin, status_of_reads ha, a, ha, hvalid, rfl⟩, of_decide_eq_true hsid⟩
  · rintro ⟨⟨hlogin, -, a, ha, hvalid, rfl⟩, hsid⟩
    have hgrant : a.grant? = some ⟨⟨a.sid, a.csrf⟩, a.validity⟩ := by
      unfold LoginAnswer.grant?
      rw [if_pos (by simpa [hvalid] using hsid)]
    unfold Spoken.granted? grant?
    rw [if_pos hlogin, ha, Option.bind_some, hgrant]
    rfl

-- =========================================================== the session

/-- In every run of a plugin, whatever it is asked for and however it is
answered: a session in its cache has a number, was granted by a login that
was answered with the status 200 and that it is good, and since then it was
never refused. -/
theorem cached_session_is_granted_and_unrefused (srv : Server σ) (turns : List (Turn σ))
    (server : σ) {x : Http.Session}
    (hcache : (go (Turn.step srv) turns { server }).cache = some x) :
    x.credentials.sid ≠ "" ∧ ∃ before login since,
      trail srv turns { server } = before ++ login :: since ∧
      IsGrantOf x.credentials login ∧ Custody.Untouched x.credentials since := by
  have hlog := custody_trail srv turns { server }
  have hheld : held (go (Turn.step srv) turns { server }) = some x.credentials := by
    unfold held
    rw [hcache]
    rfl
  rw [hheld] at hlog
  rcases hlog.origin with ⟨hfirst, -⟩ | ⟨before, login, since, htrail, hgranted, hquiet⟩
  · cases hfirst
  · obtain ⟨hgrant, hsid⟩ := granted?_eq_some_iff.mp hgranted
    exact ⟨hsid, before, login, since, htrail, hgrant, hquiet⟩

/-- A collection logs in, and an action uses the session. -/
theorem action_leaves_session_of_collection :
    let turns : List (Turn Bool) := [.collect (recordOf "http://h" "p"),
      .act (recordOf "http://h" "p") setBlockingName [("enabled", .bool true)]]
    let srv := desk 0 "http://h" "a" plainGrant
    (go (Turn.step srv) turns { server := false }).cache = some ⟨⟨"a", "b"⟩, 290⟩ ∧
    "a" ≠ "" ∧ ∃ before login since,
      trail srv turns { server := false } = before ++ login :: since ∧
      IsGrantOf ⟨"a", "b"⟩ login ∧ Custody.Untouched ⟨"a", "b"⟩ since := by
  intro turns srv
  have hcache : (go (Turn.step srv) turns { server := false }).cache = some ⟨⟨"a", "b"⟩, 290⟩ := by
    decide +kernel
  exact ⟨hcache, cached_session_is_granted_and_unrefused srv turns false hcache⟩

-- ============================================================= addresses

/-- Each session is presented only where it was granted. -/
def StaysWithIssuer (log : List Spoken) : Prop :=
  ∀ before x after c, log = before ++ x :: after → x.request.credentials = some c →
    ∃ login ∈ before, IsGrantOf c login ∧ GoesTo login.base x.request

/-- A request goes to one base address only. -/
theorem GoesTo.base_eq {base base' : String} {r : Request} (h : GoesTo base r)
    (h' : GoesTo base' r) : base = base' := by
  rcases h with ⟨hm, hurl⟩ | ⟨hm, hurl⟩ <;> rcases h' with ⟨hm', hurl'⟩ | ⟨hm', hurl'⟩
  · exact (String.append_left_inj _).mp (hurl.symm.trans hurl')
  · cases hm.symm.trans hm'
  · cases hm.symm.trans hm'
  · exact (String.append_left_inj _).mp (hurl.symm.trans hurl')

/-- Where a session comes from that is presented. -/
theorem presented_origin {turns : List (Turn σ)} {server : σ} {before after : List Spoken}
    {x : Spoken} {c : Credentials}
    (htrail : trail srv turns { server } = before ++ x :: after)
    (hc : x.request.credentials = some c) :
    GoesTo x.base x.request ∧ ∃ earlier login since,
      before = earlier ++ login :: since ∧ IsGrantOf c login ∧ Custody.Untouched c since := by
  have hlog := custody_trail srv turns { server }
  rw [htrail] at hlog
  obtain ⟨held', hbefore, hx⟩ := hlog.split
  obtain ⟨rfl, hgoes⟩ := hx.presented hc
  rcases hbefore.origin with ⟨hfirst, -⟩ | ⟨earlier, login, since, hsplit, hgranted, hquiet⟩
  · cases hfirst
  · exact ⟨hgoes, earlier, login, since, hsplit, (granted?_eq_some_iff.mp hgranted).1, hquiet⟩

/-- In every run of a plugin, a request that presents a session goes to the
service that the turn is about, and the session is the one that the last
granted login gave and that was not refused since. So it goes to where it
was granted just if the service is still there. -/
theorem presented_session_is_of_last_login (srv : Server σ) (turns : List (Turn σ)) (server : σ)
    {before after : List Spoken} {x : Spoken} {c : Credentials}
    (htrail : trail srv turns { server } = before ++ x :: after)
    (hc : x.request.credentials = some c) :
    GoesTo x.base x.request ∧ ∃ earlier login since,
      before = earlier ++ login :: since ∧ IsGrantOf c login ∧ Custody.Untouched c since ∧
      (GoesTo login.base x.request ↔ x.base = login.base) := by
  obtain ⟨hgoes, earlier, login, since, hsplit, hgrant, hquiet⟩ := presented_origin htrail hc
  have hwhere : GoesTo login.base x.request ↔ x.base = login.base := by
    constructor
    · exact hgoes.base_eq
    · intro hbase
      rw [← hbase]
      exact hgoes
  exact ⟨hgoes, earlier, login, since, hsplit, hgrant, hquiet, hwhere⟩

/-- Two collections from a service that stays where it is. -/
theorem second_collection_presents_session :
    let turns : List (Turn Bool) :=
      [.collect (recordOf "http://a" "p"), .collect (recordOf "http://a" "p")]
    let log := trail (desk 0 "http://a" "a" plainGrant) turns { server := false }
    ∃ before x after, log = before ++ x :: after ∧ x.request.credentials = some ⟨"a", "b"⟩ ∧
      GoesTo x.base x.request ∧ ∃ earlier login since,
        before = earlier ++ login :: since ∧ IsGrantOf ⟨"a", "b"⟩ login ∧
        Custody.Untouched ⟨"a", "b"⟩ since ∧
        (GoesTo login.base x.request ↔ x.base = login.base) := by
  intro turns log
  have hany : log.any (fun x => x.request.credentials == some ⟨"a", "b"⟩) = true := by
    decide +kernel
  obtain ⟨x, hx, hc⟩ := List.any_eq_true.mp hany
  obtain ⟨before, after, htrail⟩ := List.append_of_mem hx
  have hc := beq_iff_eq.mp hc
  exact ⟨before, x, after, htrail, hc,
    presented_session_is_of_last_login (desk 0 "http://a" "a" plainGrant) turns false htrail hc⟩

/-- While all that the plugin is asked for is about the service at one
base address, each session stays with its issuer. -/
theorem staysWithIssuer_of_unmoved {base : String} {turns : List (Turn σ)} {server : σ}
    (hbase : ∀ x ∈ trail srv turns { server }, x.base = base) :
    StaysWithIssuer (trail srv turns { server }) := by
  intro before x after c htrail hc
  obtain ⟨hgoes, earlier, login, since, rfl, hgrant, -⟩ := presented_origin htrail hc
  have hlogin : login ∈ earlier ++ login :: since :=
    List.mem_append_right _ List.mem_cons_self
  rw [htrail] at hbase
  refine ⟨login, hlogin, hgrant, ?_⟩
  rw [hbase login (List.mem_append_left _ hlogin),
    ← hbase x (List.mem_append_right _ List.mem_cons_self)]
  exact hgoes

/-- The session that one server granted is presented to another, when the
service has moved there. -/
theorem not_staysWithIssuer_of_moved :
    ¬ StaysWithIssuer (trail (desk 0 "http://a" "a" plainGrant)
      [.collect (recordOf "http://a" "p"), .collect (recordOf "http://b" "p")]
      { server := false }) := by
  intro hstays
  let log := trail (desk 0 "http://a" "a" plainGrant)
    [.collect (recordOf "http://a" "p"), .collect (recordOf "http://b" "p")] { server := false }
  have hmoved : log.any (fun x => x.request.credentials == some ⟨"a", "b"⟩ &&
      x.request.url == "http://b/api/stats/summary") = true := by
    decide +kernel
  have hlogins : log.all (fun y => !decide (IsLogin y.base y.request) || y.base == "http://a")
      = true := by
    decide +kernel
  obtain ⟨x, hx, hfound⟩ := List.any_eq_true.mp hmoved
  obtain ⟨hc, hurl⟩ := Bool.and_eq_true_iff.mp hfound
  obtain ⟨before, after, hsplit⟩ := List.append_of_mem hx
  obtain ⟨login, hlogin, hgrant, hgoes⟩ := hstays before x after _ hsplit (beq_iff_eq.mp hc)
  have hbase : login.base = "http://a" := by
    have hmem : login ∈ log := by
      rw [hsplit]
      exact List.mem_append_left _ hlogin
    simpa [hgrant.login] using List.all_eq_true.mp hlogins login hmem
  rw [hbase] at hgoes
  have hurl := beq_iff_eq.mp hurl
  rcases hgoes with ⟨-, hurl'⟩ | ⟨-, hurl'⟩
  · exact absurd (hurl.symm.trans hurl') (by decide)
  · exact absurd (hurl.symm.trans hurl') (by decide)

/-- A server that grants a session, and sends whoever shows it on to another
host. -/
def signpost : Server Unit where
  reply r x :=
    if r.url = "http://a/api/auth" then (answerOf plainGrant, x)
    else if r.url = "http://a/api/stats/summary" then
      if r.credentials.isSome then
        (.response { status := 307, location := some "http://b/api/stats/summary" }, x)
      else (.response { status := 401 }, x)
    else (.response { status := 404 }, x)
  now _ := 0

/-- A session is shown to a host that did not grant it: by the plugin, when the
service has moved there, and by the client, when an answer points there. -/
theorem moved_service_is_shown_old_session :
    ¬ StaysWithIssuer (trail (desk 0 "http://a" "a" plainGrant)
      [.collect (recordOf "http://a" "p"), .collect (recordOf "http://b" "p")]
      { server := false }) ∧
    ∃ x ∈ ((collect (recordOf "http://a" "p")).run (signpost.following inFull)
        { server := ((), []) }).2.server.2,
      x.request.url = "http://b/api/stats/summary" ∧ x.request.credentials = some ⟨"a", "b"⟩ := by
  refine ⟨not_staysWithIssuer_of_moved, ?_⟩
  let wire := ((collect (recordOf "http://a" "p")).run (signpost.following inFull)
    { server := ((), []) }).2.server.2
  have hany : wire.any (fun x => x.request.url == "http://b/api/stats/summary" &&
      x.request.credentials == some ⟨"a", "b"⟩) = true := by
    decide +kernel
  obtain ⟨x, hx, hfound⟩ := List.any_eq_true.mp hany
  obtain ⟨hurl, hc⟩ := Bool.and_eq_true_iff.mp hfound
  exact ⟨x, hx, eq_of_beq hurl, eq_of_beq hc⟩

end HostTelemetry.PiHole
