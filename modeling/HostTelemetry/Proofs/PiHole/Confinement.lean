/-
Where the password of a collection goes.

# One run

A collection asks for little (`Confined`): for at most six things, all under
the base address of its service, and for a login at most once. And it logs
in only when it is due (`Due`), that is after the summary was refused both
without a session and with the one from the cache, if there was one. This is
a case analysis over courses, where the login is always the first thing of a
renewal.

# Two runs

The password is in the body of the login and nowhere else. Two collections
with different passwords are twins up to that body, so whoever answers both
logins alike sees the same run twice, and the result, the cache and the time
are the same. A collection with a password and any other one are twins up to
the first login, so where none is needed nothing hangs on the password, nor
on whether there is one.

All of it is about what a collection asks the client for. The client also
goes where an answer points, and with some answers it takes the login along
(`redirect_takes_password_elsewhere`).
-/
import HostTelemetry.Proofs.Http.Redirects
import HostTelemetry.Proofs.Http.Twins
import HostTelemetry.Proofs.PiHole.FewLogins
import HostTelemetry.Proofs.PiHole.Verdict

namespace HostTelemetry.PiHole

open Http (Credentials Exchange Reply Request inFull)
open Http.Dialogue (Alike SameRun Scene Server Twins)
open Service (Fault Record Report)

variable {σ : Type} {srv : Server σ} {base : String} {password : Option String}
  {found : Option Credentials} {v6 a : Except Fault Report} {log log' : List Exchange}

-- =============================================================== one run

/-- A login is due: the summary was refused without a session, and if one
was found in the cache, it was refused with that just now. -/
def Due (base : String) (found : Option Credentials) (before : List Exchange) : Prop :=
  RefusedTo base none before ∧ ∀ c, found = some c → ∃ earlier x, before = earlier ++ [x] ∧
    IsSummary base x.request ∧ x.request.credentials = some c ∧ x.reply.isRefusal = true

/-- There is at most one login, and it was due. -/
def Sparing (base : String) (found : Option Credentials) (log : List Exchange) : Prop :=
  logins base log = 0 ∨ ∃ before x after, log = before ++ x :: after ∧ IsLogin base x.request ∧
    logins base before = 0 ∧ logins base after = 0 ∧ Due base found before

/-- A collection asks for few things, at one place, and spares its logins. -/
structure Confined (base : String) (found : Option Credentials) (log : List Exchange) : Prop where
  few : log.length ≤ 6
  inside : ∀ x ∈ log, ∃ path, x.request.url = base ++ "/" ++ path
  sparing : Sparing base found log

theorem logins_cons_of_not {x : Exchange} (hx : ¬ IsLogin base x.request) :
    logins base (x :: log) = logins base log := by
  simp [logins, hx]

theorem logins_eq_zero (h : ∀ x ∈ log, ¬ IsLogin base x.request) : logins base log = 0 := by
  simpa [logins] using h

theorem logins_of_tried {c : Option Credentials} (ht : Tried (summaryErrand base) c log a) :
    logins base log = 0 ∧ log.length ≤ 1 := by
  constructor
  · apply logins_eq_zero
    intro x hx
    rw [(tried_exchange ht hx).1]
    exact not_isLogin_summaryErrand
  · cases ht with
    | sent hc ha => exact Nat.le_refl 1
    | unsent hc => exact Nat.zero_le 1

/-- A renewal begins with its login, if it has one. -/
theorem shape_of_renewed (hr : Renewed (summaryErrand base) base password log a) :
    log = [] ∨ ∃ x after, log = x :: after ∧ IsLogin base x.request ∧ logins base after = 0 ∧
      after.length ≤ 1 := by
  cases hr with
  | unset => exact .inl rfl
  | failed hl => exact .inr ⟨_, [], rfl, isLogin_loginRequest, rfl, Nat.zero_le 1⟩
  | helped hl ht ha =>
    obtain ⟨hnone, hlength⟩ := logins_of_tried ht
    exact .inr ⟨_, _, rfl, isLogin_loginRequest, hnone, hlength⟩
  | vain hl hno =>
    refine .inr ⟨_, _, rfl, isLogin_loginRequest, ?_, Nat.le_refl 1⟩
    exact logins_singleton_of_not _ not_isLogin_summaryErrand

/-- Where a login is due, a renewal is sparing. -/
theorem sparing_of_renewed {before : List Exchange}
    (hr : Renewed (summaryErrand base) base password log a) (hbefore : logins base before = 0)
    (hdue : Due base found before) :
    Sparing base found (before ++ log) ∧ log.length ≤ 2 := by
  rcases shape_of_renewed hr with rfl | ⟨x, after, rfl, hlogin, hafter, hlength⟩
  · rw [List.append_nil]
    exact ⟨.inl hbefore, Nat.zero_le 2⟩
  · exact ⟨.inr ⟨before, x, after, rfl, hlogin, hbefore, hafter, hdue⟩, by simp; omega⟩

theorem sparing_of_v6Course (hc : V6Course base password found log a) :
    Sparing base found log ∧ log.length ≤ 4 := by
  cases hc with
  | plain ht ha =>
    obtain ⟨hnone, hlength⟩ := logins_of_tried ht
    exact ⟨.inl hnone, by omega⟩
  | @lone reply log _ hno hf hr =>
    have hdue : Due base found [⟨(summaryErrand base).request none, reply⟩] := by
      refine ⟨⟨_, List.mem_singleton_self _, isSummary_summaryErrand, rfl, hno⟩, ?_⟩
      rw [hf]
      nofun
    obtain ⟨hsparing, hlength⟩ := sparing_of_renewed hr
      (logins_singleton_of_not reply not_isLogin_summaryErrand) hdue
    exact ⟨hsparing, by simp; omega⟩
  | @cached reply c log _ hno hf hp =>
    cases hp with
    | settled ht ha =>
      obtain ⟨hnone, hlength⟩ := logins_of_tried ht
      rw [← logins_cons_of_not (x := ⟨_, reply⟩) (not_isLogin_summaryErrand (c := none))] at hnone
      exact ⟨.inl hnone, by simp; omega⟩
    | @refused reply' log _ hsent hno' hr =>
      let first : Exchange := ⟨(summaryErrand base).request none, reply⟩
      let second : Exchange := ⟨(summaryErrand base).request (some c), reply'⟩
      have hdue : Due base found [first, second] := by
        refine ⟨⟨first, List.mem_cons_self, isSummary_summaryErrand, rfl, hno⟩, ?_⟩
        intro c' hc'
        refine ⟨[first], second, rfl, isSummary_summaryErrand, ?_, hno'⟩
        rw [← hc', hf]
        rfl
      have hbefore : logins base [first, second] = 0 := by
        rw [logins_cons_of_not not_isLogin_summaryErrand]
        exact logins_singleton_of_not reply' not_isLogin_summaryErrand
      obtain ⟨hsparing, hlength⟩ := sparing_of_renewed hr hbefore hdue
      exact ⟨hsparing, by simp; omega⟩

/-- What is asked for before and after the path of generation 6 is no
login. -/
theorem sparing_whole {reply : Reply} (h : Sparing base found log)
    (hlog' : ∀ x ∈ log', x.request = stateRequest base) :
    Sparing base found (⟨oldRequest base, reply⟩ :: (log ++ log')) := by
  have hquiet : logins base log' = 0 := by
    apply logins_eq_zero
    intro x hx
    rw [hlog' x hx]
    exact not_isLogin_stateRequest
  rcases h with h | ⟨before, x, after, rfl, hlogin, hbefore, hafter, hrefused, hdue⟩
  · left
    rw [logins_cons_of_not not_isLogin_oldRequest, logins_append, h, hquiet]
  · refine .inr ⟨⟨oldRequest base, reply⟩ :: before, x, after ++ log', ?_, hlogin, ?_, ?_, ?_, ?_⟩
    · simp
    · rw [logins_cons_of_not not_isLogin_oldRequest, hbefore]
    · rw [logins_append, hafter, hquiet]
    · obtain ⟨y, hy, hrest⟩ := hrefused
      exact ⟨y, List.mem_cons_of_mem _ hy, hrest⟩
    · intro c hc
      obtain ⟨earlier, y, rfl, hrest⟩ := hdue c hc
      exact ⟨⟨oldRequest base, reply⟩ :: earlier, y, rfl, hrest⟩

theorem length_of_publicCourse {e : Fault} (hp : PublicCourse base e log a) : log.length ≤ 1 := by
  cases hp with
  | passed => exact Nat.zero_le 1
  | locked => exact Nat.le_refl 1
  | replaced he hs => exact Nat.le_refl 1
  | kept he hs => exact Nat.le_refl 1

theorem inside_old : ∃ path, (oldRequest base).url = base ++ "/" ++ path :=
  ⟨"admin/api.php?summaryRaw", by rw [String.append_assoc]; rfl⟩

theorem inside_state : ∃ path, (stateRequest base).url = base ++ "/" ++ path :=
  ⟨"api/dns/blocking", by rw [String.append_assoc]; rfl⟩

theorem inside_of_v6Course (hc : V6Course base password found log a) {x : Exchange}
    (hx : x ∈ log) : ∃ path, x.request.url = base ++ "/" ++ path := by
  rcases v6Course_request hc hx with h | h
  · refine ⟨"api/stats/summary", ?_⟩
    rw [h.2, String.append_assoc]
    rfl
  · refine ⟨"api/auth", ?_⟩
    rw [h.2, String.append_assoc]
    rfl

theorem confined_of_course (hc : Course base password found v6 log a) :
    Confined base found log := by
  cases hc with
  | @old reply report ho =>
    refine ⟨Nat.le_add_left 1 5, ?_, .inl (logins_singleton_of_not reply not_isLogin_oldRequest)⟩
    intro x hx
    rw [List.mem_singleton.mp hx]
    exact inside_old
  | @shown reply report log ho hv hc =>
    obtain ⟨hsparing, hlength⟩ := sparing_of_v6Course hc
    have hquiet : ∀ x ∈ ([] : List Exchange), x.request = stateRequest base := nofun
    refine ⟨by simp; omega, ?_, ?_⟩
    · intro x hx
      rcases List.mem_cons.mp hx with rfl | hx
      · exact inside_old
      · exact inside_of_v6Course hc hx
    · rw [← List.append_nil log]
      exact sparing_whole hsparing hquiet
  | @failed reply e log log' _ ho hv hc hp =>
    obtain ⟨hsparing, hlength⟩ := sparing_of_v6Course hc
    have hlength' := length_of_publicCourse hp
    refine ⟨by simp; omega, ?_, sparing_whole hsparing fun _ => publicCourse_request hp⟩
    intro x hx
    rcases List.mem_cons.mp hx with rfl | hx
    · exact inside_old
    · rcases List.mem_append.mp hx with hx | hx
      · exact inside_of_v6Course hc hx
      · rw [publicCourse_request hp hx]
        exact inside_state

-- ============================================================== two runs

/-- The requests are the same, or they are logins with these passwords. -/
def Reworded (base p q : String) (r r' : Request) : Prop :=
  r = r' ∨ (r = loginRequest base p ∧ r' = loginRequest base q)

section twins

variable {R : Request → Request → Prop} {stop : Request → Prop} {other : Option String}

theorem twins_authenticate (hR : ∀ r, R r r) {p q : String}
    (hlogin : R (loginRequest base p) (loginRequest base q)) :
    Twins R stop (authenticate base p) (authenticate base q) :=
  .exchange hlogin fun _ => .refl hR _

theorem twins_collectV6 (hR : ∀ r, R r r)
    (hfresh : Twins R stop (collectFresh base password) (collectFresh base other)) :
    Twins R stop (collectV6 base password) (collectV6 base other) := by
  refine .bind (.refl hR _) fun a => ?_
  cases a with
  | ok report => exact .done _
  | error e =>
    show Twins R stop (if e.isUnauthorized then _ else _) (if e.isUnauthorized then _ else _)
    cases e.isUnauthorized with
    | false => exact .done _
    | true =>
      refine .consult fun c => ?_
      cases c with
      | none => exact hfresh
      | some c =>
        refine .bind (.refl hR _) fun a => ?_
        cases a with
        | ok report => exact .done _
        | error e =>
          show Twins R stop (if e.isUnauthorized then _ else _) (if e.isUnauthorized then _ else _)
          cases e.isUnauthorized with
          | false => exact .done _
          | true => exact .forget hfresh

/-- Where the renewals are twins, the collections are. -/
theorem twins_collect (hR : ∀ r, R r r) {r r' : Record} (hbase : r'.baseUrl = r.baseUrl)
    (hfresh : Twins R stop (collectFresh r.baseUrl (r.note? passwordNote))
      (collectFresh r.baseUrl (r'.note? passwordNote))) :
    Twins R stop (collect r) (collect r') := by
  unfold collect
  rw [hbase]
  refine .bind (.refl hR _) fun a => ?_
  cases a with
  | ok report => exact .done _
  | error e => exact .bind (twins_collectV6 hR hfresh) fun _ => .refl hR _

/-- Renewals with two passwords differ in the login only. -/
theorem twins_reworded (p q : String) :
    Twins (Reworded base p q) stop (collectFresh base (some p)) (collectFresh base (some q)) :=
  .bind (twins_authenticate (fun _ => .inl rfl) (.inr ⟨rfl, rfl⟩)) fun _ => .refl (fun _ => .inl rfl) _

/-- A renewal with a password begins with its login. -/
theorem twins_unless_login (p : String) :
    Twins Eq (IsLogin base) (collectFresh base (some p)) (collectFresh base other) :=
  .stopped ⟨rfl, rfl⟩

end twins

theorem waited_of_reworded {p q : String} {r r' : Request} (h : Reworded base p q r r')
    (reply : Reply) : Http.Dialogue.waited r reply = Http.Dialogue.waited r' reply := by
  rcases h with rfl | ⟨rfl, rfl⟩
  · rfl
  · rfl

/-- In every collection, whatever is in the cache and however it is answered:
at most six requests, all under the base address, and at most one login,
which was due. With another password to whose login the server answers
alike, the run is the same up to the body of the login; and where there is
no login, the run is the same with every password and with none. -/
theorem collection_confines_password (srv : Server σ) (r : Record) (s : Scene σ) :
    Confined r.baseUrl (sessionFound srv r.baseUrl s) ((collect r).exchanges srv s) ∧
    (∀ r' p q, IsRecordOf r.baseUrl p r → IsRecordOf r.baseUrl q r' → p ≠ "" → q ≠ "" →
      Alike srv (Reworded r.baseUrl p q) s.server s.server →
      SameRun srv (Reworded r.baseUrl p q) (collect r) (collect r') s s) ∧
    (∀ r' p, IsRecordOf r.baseUrl p r → p ≠ "" → r'.baseUrl = r.baseUrl →
      logins r.baseUrl ((collect r).exchanges srv s) = 0 →
      SameRun srv Eq (collect r) (collect r') s s) := by
  refine ⟨confined_of_course (course_collect r s), ?_, ?_⟩
  · intro r' p q hr hr' hp hq halike
    have hfresh : Twins (Reworded r.baseUrl p q) (fun _ => False)
        (collectFresh r.baseUrl (r.note? passwordNote))
        (collectFresh r.baseUrl (r'.note? passwordNote)) := by
      rw [Honest.note?_of_isRecordOf hr hp, Honest.note?_of_isRecordOf hr' hq]
      exact twins_reworded p q
    have htwins := twins_collect (fun _ => .inl rfl) hr'.1 hfresh
    exact htwins.sameRun (fun _ _ => waited_of_reworded) ⟨halike, rfl, rfl⟩ fun _ _ h => h
  · intro r' p hr hp hbase hnone
    have hfresh : Twins Eq (IsLogin r.baseUrl) (collectFresh r.baseUrl (r.note? passwordNote))
        (collectFresh r.baseUrl (r'.note? passwordNote)) := by
      rw [Honest.note?_of_isRecordOf hr hp]
      exact twins_unless_login p
    have htwins := twins_collect (fun _ => rfl) hbase hfresh
    refine htwins.sameRun (fun _ _ h _ => by rw [h]) ⟨.refl _, rfl, rfl⟩ fun x hx hlogin => ?_
    simp only [logins, List.countP_eq_zero, decide_eq_true_eq] at hnone
    exact hnone x hx hlogin

/-- The small server does not look at the password. -/
theorem alike_desk {moment : Nat} {sid : String} {granted : Bytes} (p q : String) (lives : Bool) :
    Alike (desk moment base sid granted) (Reworded base p q) lives lives := by
  apply Alike.of_reply_eq
  intro r r' lives h
  rcases h with rfl | ⟨rfl, rfl⟩
  · rfl
  · simp only [desk, if_pos isLogin_loginRequest]

/-- A collection that logs in, with either of two passwords; and one that
need not, with a password or without. -/
theorem collections_at_desk_confine_password :
    let srv := desk 0 "http://h" "a" plainGrant
    let out : Scene Bool := { server := false }
    let signedIn : Scene Bool := { server := true, cache := some ⟨⟨"a", "b"⟩, 290⟩ }
    let run := (collect (recordOf "http://h" "p")).exchanges srv out
    logins "http://h" run = 1 ∧ Confined "http://h" (sessionFound srv "http://h" out) run ∧
    SameRun srv (Reworded "http://h" "p" "q") (collect (recordOf "http://h" "p"))
      (collect (recordOf "http://h" "q")) out out ∧
    SameRun srv Eq (collect (recordOf "http://h" "p")) (collect (identity.recordAt "http://h"))
      signedIn signedIn := by
  intro srv out signedIn run
  obtain ⟨hconfined, htwo, -⟩ := collection_confines_password srv (recordOf "http://h" "p") out
  obtain ⟨-, -, hnone⟩ := collection_confines_password srv (recordOf "http://h" "p") signedIn
  refine ⟨by decide +kernel, hconfined, ?_, ?_⟩
  · exact htwo _ _ _ isRecordOf_recordOf isRecordOf_recordOf (by decide) (by decide)
      (alike_desk "p" "q" false)
  · exact hnone _ _ isRecordOf_recordOf (by decide) rfl (by decide +kernel)

-- ============================================================= redirects

/-- Two hosts, where the first sends a login on to the second. -/
def crossroads : Server Unit where
  reply r x :=
    if r.url = "http://a/api/stats/summary" then (.response { status := 401 }, x)
    else if r.url = "http://a/api/auth" then
      (.response { status := 307, location := some "http://b/api/auth" }, x)
    else if r.url = "http://b/api/auth" then (answerOf plainGrant, x)
    else (.response { status := 404 }, x)
  now _ := 0

/-- The password in the content of a login. -/
def passwordIn? : Json → Option String
  | .obj [(key, .str password)] => if key = "password" then some password else none
  | _ => none

/-- Where an answer to the login points elsewhere, the client asks there
with the password again. -/
theorem redirect_takes_password_elsewhere :
    ∃ x ∈ ((collect (recordOf "http://a" "p")).run (crossroads.following inFull)
        { server := ((), []) }).2.server.2,
      x.request.body.bind passwordIn? = some "p" ∧
        ¬ ∃ path, x.request.url = "http://a" ++ "/" ++ path := by
  let wire := ((collect (recordOf "http://a" "p")).run (crossroads.following inFull)
    { server := ((), []) }).2.server.2
  have hany : wire.any (fun x => x.request.url == "http://b/api/auth" &&
      x.request.body.bind passwordIn? == some "p") = true := by
    decide +kernel
  obtain ⟨x, hx, hfound⟩ := List.any_eq_true.mp hany
  obtain ⟨hurl, hbody⟩ := Bool.and_eq_true_iff.mp hfound
  refine ⟨x, hx, eq_of_beq hbody, ?_⟩
  intro ⟨path, hpath⟩
  rw [eq_of_beq hurl] at hpath
  have hletters := congrArg String.toList hpath
  simp at hletters

end HostTelemetry.PiHole
