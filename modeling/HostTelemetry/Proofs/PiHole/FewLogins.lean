/-
Runs of the plugin against a server that keeps its promises: collections,
actions and invalidations in any order.

# The account

A collection and an action both end signed in, and they log in only if
they did not begin so. So a login is paid for by what had ended the
session before it: the start of the run, or an invalidation on the way.
`answers_account` carries that along every run, and both of its bounds are
needed to do so, since a run that begins signed in has no start to pay
with.

# Where it holds

A session has to reach the server again. It does so in two header fields,
which hold no control characters, and it waits for that up to a moment
that the clock can hold: `IsPresentable` says both. A JSON string may hold
a control character, so an honest server may grant a session that the
plugin cannot present; and an empty password counts as none, whatever the
server makes of it. In both cases the plugin fails where the server would
not (`honest_servers_without_answers`).
-/
import HostTelemetry.Proofs.PiHole.HonestServer
import HostTelemetry.Proofs.Runs

namespace HostTelemetry.PiHole

open Http (Credentials Exchange Grant Reply Request)
open Http.Dialogue (Scene Server)
open Service (Fault Params Record Report)

variable {σ : Type} {srv : Server σ} {base password : String}

-- ================================================================== runs

/-- What happens to a plugin and its server. -/
inductive Move where
  | collect (r : Record)
  | setBlocking (r : Record) (params : Params)
  | invalidate
deriving Inhabited

/-- Whether the move is an invalidation. -/
def Move.isInvalidation : Move → Bool
  | .invalidate => true
  | .collect _ | .setBlocking .. => false

/-- The record is of the service at the base address, with the password. -/
def IsRecordOf (base password : String) (r : Record) : Prop :=
  r.baseUrl = base ∧ r.notes.get? passwordNote = some password

/-- The move is about the service at the base address, with the password;
an action is one that the service has, and its parameters can be read. -/
def Move.Fits (base password : String) : Move → Prop
  | .collect r => IsRecordOf base password r
  | .setBlocking r params =>
    IsRecordOf base password r ∧ r.version ≠ v5 ∧ (SetBlocking.ofParams? params).isSome = true
  | .invalidate => True

/-- What came of a move of the plugin, and what it said on the wire. -/
inductive Answer where
  | collected (a : Except Fault Report) (log : List Exchange)
  | acted (a : Except Fault String) (log : List Exchange)

/-- What was said on the wire. -/
def Answer.log : Answer → List Exchange
  | .collected _ log | .acted _ log => log

/-- A collection gave the report of a summary that the server gave, or an
action was done. -/
def Answer.IsGood (base : String) : Answer → Prop
  | .collected a log => ∃ report, a = .ok report ∧ Honest.Served base log report
  | .acted a _ => ∃ text, a = .ok text

/-- The scene after a move. -/
def Move.step (srv : Server σ) (revoke : σ → σ) : Move → Scene σ → Scene σ
  | .collect r, s => ((PiHole.collect r).run srv s).2
  | .setBlocking r params, s => ((act r setBlockingName params).run srv s).2
  | .invalidate, s => { s with server := revoke s.server }

/-- The answer of the plugin to a move; the server does not ask it for an
invalidation. -/
def Move.answer (srv : Server σ) : Move → Scene σ → List Answer
  | .collect r, s =>
    [.collected ((PiHole.collect r).run srv s).1 ((PiHole.collect r).exchanges srv s)]
  | .setBlocking r params, s =>
    [.acted ((act r setBlockingName params).run srv s).1
      ((act r setBlockingName params).exchanges srv s)]
  | .invalidate, _ => []

/-- The answers of a plugin to a run of moves, from a scene on. -/
def answers (srv : Server σ) (revoke : σ → σ) : List Move → Scene σ → List Answer :=
  along (Move.step srv revoke) (Move.answer srv)

/-- The number of logins that it took to give some answers. -/
def loginsOf (base : String) (l : List Answer) : Nat := (l.map fun a => logins base a.log).sum

-- ========================================================= a small server

/-- An answer with a content. -/
def answerOf (content : Bytes) : Reply := .response { status := 200, body := .ofBytes content }

/-- A summary without figures. -/
def emptySummary : Bytes := Text.encode "\x7b\"queries\": \x7b\x7d\x7d"

/-- A server with one session, which lives from a login to an invalidation.
What a login is told of it is `granted`. Its clock stands still. -/
def desk (moment : Nat) (base sid : String) (granted : Bytes) : Server Bool where
  reply r lives :=
    if IsLogin base r then (answerOf granted, true)
    else if r.url = base ++ "/admin/api.php?summaryRaw" then (.response { status := 404 }, lives)
    else if lives && r.credentials.any (·.sid == sid) then (answerOf emptySummary, lives)
    else (.response { status := 401 }, lives)
  now _ := moment

/-- The answer to what needs a session hangs on the session alone. -/
theorem desk_reply {moment : Nat} {sid : String} {granted : Bytes} {r : Request} {lives : Bool}
    (hr : IsSummary base r ∨ IsBlocking base r) :
    (desk moment base sid granted).reply r lives
      = if lives && r.credentials.any (·.sid == sid) then (answerOf emptySummary, lives)
        else (.response { status := 401 }, lives) := by
  have hlogin : ¬ IsLogin base r := by
    rcases hr with hr | hr
    · exact not_isLogin_of_isSummary hr
    · exact not_isLogin_of_isBlocking hr
  have hold : r.url ≠ base ++ "/admin/api.php?summaryRaw" := by
    intro hurl
    rcases hr with hr | hr
    · exact absurd ((String.append_right_inj base).mp (hr.2.symm.trans hurl)) (by decide)
    · exact absurd ((String.append_right_inj base).mp (hr.2.symm.trans hurl)) (by decide)
  simp only [desk, if_neg hlogin, if_neg hold]

theorem summary?_emptySummary : (summary? (answerOf emptySummary)).isSome = true := by
  decide +kernel

theorem bytes?_emptySummary : (answerOf emptySummary).bytes?.isSome = true := by
  decide +kernel

/-- The small server is honest if what it says of its session is a grant of
it. -/
def deskHonest {moment : Nat} {granted : Bytes} {g : Grant}
    (hg : grant? (answerOf granted) = some g) (hlife : Http.lifetime g.validity ≠ 0) :
    Honest (desk moment base g.credentials.sid granted) base password where
  Lives lives sid := lives = true ∧ sid = g.credentials.sid
  revoke _ := false
  moment := moment
  now_eq _ := rfl
  not_lives_revoke _ _ hlives := nomatch hlives.1
  lives_reply r lives sid hlogin := by
    simp only [desk, if_neg hlogin]
    split
    · rfl
    · split <;> rfl
  no_oldSummary r lives hr := by
    simp only [desk, if_neg (not_isLogin_of_isOldSummary hr), if_pos hr.2]
    rfl
  locked r lives hr hc := by
    rw [desk_reply hr, hc]
    simp [Reply.isRefusal]
  refuses r lives c hr hc hdead := by
    rw [desk_reply hr, hc, if_neg]
    · rfl
    · simpa using hdead
  shows r lives c hr hc hlives := by
    rw [desk_reply (.inl hr), hc, if_pos (by simpa using hlives)]
    exact summary?_emptySummary
  obeys r lives c hr hc hlives := by
    rw [desk_reply (.inr hr), hc, if_pos (by simpa using hlives)]
    exact bytes?_emptySummary
  grants r lives hlogin _ := by
    refine ⟨g, ?_, hlife, fun sid => ?_⟩
    · simp only [desk, if_pos hlogin, hg]
    · simp only [desk, if_pos hlogin]
      by_cases hsid : sid = g.credentials.sid <;> simp [hsid]

/-- All that the small server grants is what it says of its session. -/
theorem desk_issues {moment : Nat} {sid : String} {granted : Bytes} {g : Grant}
    {good : Grant → Prop} (hg : grant? (answerOf granted) = some g) (hgood : good g) :
    Issues (desk moment base sid granted) base password good := by
  intro r lives g' hlogin _ hg'
  simp only [desk, if_pos hlogin, hg] at hg'
  cases hg'
  exact hgood

/-- The record of a service at a base address, with its password. -/
def recordOf (base password : String) : Record :=
  { identity.recordAt base with notes := (∅ : Dict String String).insert passwordNote password }

theorem isRecordOf_recordOf : IsRecordOf base password (recordOf base password) := by
  refine ⟨rfl, ?_⟩
  unfold recordOf
  rw [Dict.get?_insert, if_pos rfl]

/-- A grant of a session that can be presented. -/
def plainGrant : Bytes :=
  Text.encode "\x7b\"session\": \x7b\"valid\": true, \"sid\": \"a\", \"csrf\": \"b\"\x7d\x7d"

theorem grant?_plainGrant : grant? (answerOf plainGrant) = some ⟨⟨"a", "b"⟩, 0⟩ := by
  decide +kernel

/-- A grant of a session whose number is a control character. -/
def controlGrant : Bytes :=
  Text.encode "\x7b\"session\": \x7b\"valid\": true, \"sid\": \"\x7f\", \"csrf\": \"b\"\x7d\x7d"

theorem grant?_controlGrant : grant? (answerOf controlGrant) = some ⟨⟨"\x7f", "b"⟩, 0⟩ := by
  decide +kernel

/-- A grant of a session for as long as a number can say. -/
def endlessGrant : Bytes :=
  Text.encode ("\x7b\"session\": \x7b\"valid\": true, \"sid\": \"a\", " ++
    "\"validity\": 9223372036854775807\x7d\x7d")

theorem grant?_endlessGrant :
    grant? (answerOf endlessGrant) = some ⟨⟨"a", ""⟩, 9223372036854775807⟩ := by
  decide +kernel

-- ============================================================ the account

namespace Honest

variable {h : Honest srv base password}

theorem note?_of_isRecordOf {r : Record} (hr : IsRecordOf base password r)
    (hpassword : password ≠ "") : r.note? passwordNote = some password := by
  unfold Record.note?
  rw [hr.2]
  exact Option.filter_some_pos (by simpa using hpassword)

/-- The account of a run from any scene on: every move succeeds, and what
is logged in for is an invalidation on the way, or that the run began
signed out. -/
theorem answers_account (hg : Issues srv base password (IsPresentable h.moment))
    (hpassword : password ≠ "") {moves : List Move} :
    ∀ {s : Scene σ}, Sendable s → (∀ m ∈ moves, m.Fits base password) →
      (∀ a ∈ answers srv h.revoke moves s, a.IsGood base) ∧
      loginsOf base (answers srv h.revoke moves s) ≤ 1 + moves.countP Move.isInvalidation ∧
      (SignedIn h s →
        loginsOf base (answers srv h.revoke moves s) ≤ moves.countP Move.isInvalidation) := by
  induction moves with
  | nil =>
      intro s _ _
      exact ⟨nofun, Nat.zero_le _, fun _ => Nat.zero_le _⟩
  | cons m rest ih =>
      intro s hsent hfits
      have hrest : ∀ m ∈ rest, m.Fits base password := fun m hm =>
        hfits m (List.mem_cons_of_mem _ hm)
      -- a move of the plugin is paid for by what ended the session before
      have hpay : ∀ {a : Answer} {s' : Scene σ} {log : List Exchange}, a.IsGood base →
          a.log = log → Settled h s s' log →
          (∀ b ∈ a :: answers srv h.revoke rest s', b.IsGood base) ∧
          loginsOf base (a :: answers srv h.revoke rest s')
            ≤ 1 + rest.countP Move.isInvalidation ∧
          (SignedIn h s → loginsOf base (a :: answers srv h.revoke rest s')
            ≤ rest.countP Move.isInvalidation) := by
        rintro a s' log hgood rfl hsettled
        obtain ⟨hall, -, hpaid⟩ := ih hsettled.sendable hrest
        have hpaid := hpaid hsettled.signedIn
        have honce := hsettled.once
        have hsplit : loginsOf base (a :: answers srv h.revoke rest s')
            = logins base a.log + loginsOf base (answers srv h.revoke rest s') := by
          simp [loginsOf]
        refine ⟨?_, by omega, fun hin => ?_⟩
        · intro b hb
          rcases List.mem_cons.mp hb with rfl | hb
          · exact hgood
          · exact hall b hb
        · have hspared := hsettled.spared hin
          omega
      cases m with
      | collect r =>
          have hr : IsRecordOf base password r := hfits _ List.mem_cons_self
          obtain ⟨hgood, hsettled⟩ :=
            ends_collect h hg hsent hr.1 (note?_of_isRecordOf hr hpassword)
          exact hpay hgood rfl hsettled
      | setBlocking r params =>
          obtain ⟨hr, hversion, hparams⟩ : IsRecordOf base password r ∧ r.version ≠ v5 ∧
              (SetBlocking.ofParams? params).isSome = true := hfits _ List.mem_cons_self
          obtain ⟨b, hb⟩ := Option.isSome_iff_exists.mp hparams
          obtain ⟨hgood, hsettled⟩ :=
            ends_act h hg hsent hr.1 (note?_of_isRecordOf hr hpassword) hversion hb
          exact hpay ⟨b.description, hgood⟩ rfl hsettled
      | invalidate =>
          obtain ⟨hall, hpaid, -⟩ := ih (s := { s with server := h.revoke s.server }) hsent hrest
          have hcount : (Move.invalidate :: rest).countP Move.isInvalidation
              = rest.countP Move.isInvalidation + 1 := List.countP_cons_of_pos rfl
          refine ⟨hall, ?_, fun _ => ?_⟩
          · rw [hcount]
            exact Nat.le_trans hpaid (by omega)
          · rw [hcount]
            exact Nat.le_trans hpaid (by omega)

/-- Against an honest server whose sessions can be presented, whatever the
plugin is asked for succeeds, with at most one login for the start and one
for each invalidation. -/
theorem moves_succeed_with_few_logins (h : Honest srv base password)
    (hg : Issues srv base password (IsPresentable h.moment)) (hpassword : password ≠ "")
    (moves : List Move) (hfits : ∀ m ∈ moves, m.Fits base password) (server : σ) :
    (∀ a ∈ answers srv h.revoke moves { server }, a.IsGood base) ∧
      loginsOf base (answers srv h.revoke moves { server })
        ≤ 1 + moves.countP Move.isInvalidation := by
  have hsent : Sendable ({ server } : Scene σ) := nofun
  obtain ⟨hall, hfew, -⟩ := answers_account hg hpassword hsent hfits
  exact ⟨hall, hfew⟩

/-- Two collections and an action, with an invalidation on the way: two
logins at most. -/
theorem moves_at_desk_succeed :
    let moves : List Move := [.collect (recordOf "http://h" "p"), .invalidate,
      .setBlocking (recordOf "http://h" "p") [("enabled", .bool true)],
      .collect (recordOf "http://h" "p")]
    let given := answers (desk 0 "http://h" "a" plainGrant) (fun _ => false) moves { server := false }
    (∀ a ∈ given, a.IsGood "http://h") ∧ loginsOf "http://h" given ≤ 2 := by
  intro moves
  have hfits : ∀ m ∈ moves, m.Fits "http://h" "p" := by
    intro m hm
    simp only [moves, List.mem_cons, List.not_mem_nil, or_false] at hm
    rcases hm with rfl | rfl | rfl | rfl
    · exact isRecordOf_recordOf
    · exact trivial
    · exact ⟨isRecordOf_recordOf, by decide, by decide⟩
    · exact isRecordOf_recordOf
  exact moves_succeed_with_few_logins
    (deskHonest grant?_plainGrant (by decide) : Honest _ "http://h" "p")
    (desk_issues grant?_plainGrant ⟨by decide +kernel, by decide⟩) (by decide) moves hfits false

/-- A server may be honest and still not be understood: where the number of
the session cannot be sent, the collection fails, and where the password
is empty, the action does. And it may grant a session whose end no clock
can hold. -/
theorem honest_servers_without_answers :
    (∃ h : Honest (desk 0 "http://h" "\x7f" controlGrant) "http://h" "p",
      (Move.collect (recordOf "http://h" "p")).Fits "http://h" "p" ∧
      ∃ a ∈ answers (desk 0 "http://h" "\x7f" controlGrant) h.revoke
          [.collect (recordOf "http://h" "p")] { server := false },
        ¬ a.IsGood "http://h") ∧
    (∃ h : Honest (desk 0 "http://h" "a" plainGrant) "http://h" "",
      (Move.setBlocking (recordOf "http://h" "") [("enabled", .bool true)]).Fits "http://h" "" ∧
      ∃ a ∈ answers (desk 0 "http://h" "a" plainGrant) h.revoke
          [.setBlocking (recordOf "http://h" "") [("enabled", .bool true)]] { server := false },
        ¬ a.IsGood "http://h") ∧
    (∃ h : Honest (desk 11 "http://h" "a" endlessGrant) "http://h" "p",
      ∃ g, grant? (answerOf endlessGrant) = some g ∧
        Http.after? h.moment (Http.lifetime g.validity) = none) := by
  refine ⟨?_, ?_, ?_⟩
  · refine ⟨deskHonest grant?_controlGrant (by decide), isRecordOf_recordOf, _,
      List.mem_singleton_self _, ?_⟩
    have hfails : ((collect (recordOf "http://h" "p")).run (desk 0 "http://h" "\x7f" controlGrant)
        { server := false }).1.toOption.isNone = true := by
      decide +kernel
    rintro ⟨report, hreport, -⟩
    rw [hreport] at hfails
    cases hfails
  · refine ⟨deskHonest grant?_plainGrant (by decide), ⟨isRecordOf_recordOf, by decide, by decide⟩,
      _, List.mem_singleton_self _, ?_⟩
    have hfails : ((act (recordOf "http://h" "") setBlockingName [("enabled", .bool true)]).run
        (desk 0 "http://h" "a" plainGrant) { server := false }).1.toOption.isNone = true := by
      decide +kernel
    rintro ⟨text, htext⟩
    rw [htext] at hfails
    cases hfails
  · exact ⟨deskHonest grant?_endlessGrant (by decide), _, grant?_endlessGrant, by decide⟩

end Honest

end HostTelemetry.PiHole
