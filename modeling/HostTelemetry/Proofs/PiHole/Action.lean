/-
What an action does to the blocking, and what it says of it.

An action that the service does not have does nothing. Any other is a post
of the blocking, and a second one if the first is refused and a login helps
(`Applied`). The two posts say the same, so it does not matter which of them
is accepted; but not both can be, since a refused post is not accepted, and
the action is reported as done just if the last one is.

There is one exception, which is not about the server. A session is sent in
two header fields, and where the cached one cannot stand there the action
fails before anything is sent. It then keeps failing until the session
expires (`action_without_post`, first part).

As with collections, a post is what the action asks the client for. Where an
answer points elsewhere the client may go on without posting, and what it
finds there is what the action reports (second part).
-/
import HostTelemetry.Proofs.PiHole.Confinement

namespace HostTelemetry.PiHole

open Http (Credentials Exchange Grant Reply Request inFull)
open Http.Dialogue (Ends Scene Server)
open Service (Fault Params Record)

variable {σ α : Type} {srv : Server σ} {base : String} {log : List Exchange} {x y login : Exchange}
  {body : Json} {a : Except Fault α}

-- ================================================================ posts

instance (r : Request) : Decidable (IsBlocking base r) :=
  inferInstanceAs (Decidable (_ ∧ _))

/-- The posts of the blocking among exchanges. -/
def posts (base : String) (log : List Exchange) : List Exchange :=
  log.filter fun x => IsBlocking base x.request

/-- Whether a reply has the status 200. -/
def isAccepted : Reply → Bool
  | .response r => r.status == 200
  | .closed | .silence => false

/-- The blocking is posted once or twice and always says the same, the
second time only on a refusal and a login that was granted. The result is
good just if the last post is, and at most one post is accepted. -/
structure Applied (base : String) (body : Json) (log : List Exchange) (a : Except Fault α) :
    Prop where
  count : (posts base log).length = 1 ∨ (posts base log).length = 2
  body : ∀ x ∈ posts base log, x.request.body = some body
  second : ∀ x y, posts base log = [x, y] → x.reply.isRefusal = true ∧ ∃ login g,
    log = [x, login, y] ∧ IsLogin base login.request ∧ grant? login.reply = some g ∧
      y.request.credentials = some g.credentials
  ok_iff : (∃ v, a = .ok v) ↔
    ∃ x, (posts base log).getLast? = some x ∧ x.reply.bytes?.isSome = true
  once : ((posts base log).filter fun x => isAccepted x.reply).length ≤ 1

theorem isBlocking_blockingErrand (c : Option Credentials) :
    IsBlocking base ((blockingErrand base body).request c) := ⟨rfl, rfl⟩

theorem not_isBlocking_loginRequest {p : String} : ¬ IsBlocking base (loginRequest base p) :=
  fun h => not_isLogin_of_isBlocking h isLogin_loginRequest

theorem status_of_isRefusal {reply : Reply} (h : reply.isRefusal = true) :
    ∃ r, reply = .response r ∧ r.status = 401 := by
  cases reply with
  | closed => cases h
  | silence => cases h
  | response r => exact ⟨r, rfl, by simpa [Reply.isRefusal] using h⟩

theorem not_isAccepted {reply : Reply} (h : reply.isRefusal = true) : isAccepted reply = false := by
  obtain ⟨r, rfl, hs⟩ := status_of_isRefusal h
  simp [isAccepted, hs]

theorem bytes?_of_isRefusal {reply : Reply} (h : reply.isRefusal = true) : reply.bytes? = none := by
  obtain ⟨r, rfl, hs⟩ := status_of_isRefusal h
  simp [Reply.bytes?, hs]

/-- Posting is good just if the answer has the status 200 and can be read. -/
theorem blockingResult_ok_iff {reply : Reply} :
    (∃ v, blockingResult base reply = .ok v) ↔ reply.bytes?.isSome = true := by
  constructor
  · intro ⟨v, h⟩
    unfold blockingResult at h
    cases hc : reply.content (base ++ "/api/dns/blocking") with
    | ok bytes =>
      rw [Reply.content_eq_ok_iff.mp hc]
      rfl
    | error e =>
      rw [hc] at h
      cases h
  · intro h
    exact ⟨(), blockingResult_of_bytes? h⟩

/-- One post, and no other after it. -/
theorem applied_one {rest : List Exchange} (hx : IsBlocking base x.request)
    (hbody : x.request.body = some body) (hrest : ∀ y ∈ rest, ¬ IsBlocking base y.request)
    (ha : (∃ v, a = .ok v) ↔ x.reply.bytes?.isSome = true) : Applied base body (x :: rest) a := by
  have hposts : posts base (x :: rest) = [x] := by
    have hnone : rest.filter (fun y => IsBlocking base y.request) = [] := by
      simpa using hrest
    unfold posts
    rw [List.filter_cons_of_pos (by simpa using hx), hnone]
  exact {
    count := by
      rw [hposts]
      exact .inl rfl
    body := by
      intro y hy
      rw [hposts, List.mem_singleton] at hy
      rw [hy]
      exact hbody
    second := by
      intro y z h
      rw [hposts] at h
      cases h
    ok_iff := by
      rw [hposts, ha]
      simp
    once := by
      rw [hposts]
      exact List.length_filter_le _ [x] }

/-- A post that was refused, a login, and the post once more. -/
theorem applied_two {g : Grant} (hx : IsBlocking base x.request)
    (hbody : x.request.body = some body) (hno : x.reply.isRefusal = true)
    (hlogin : IsLogin base login.request) (hg : grant? login.reply = some g)
    (hy : IsBlocking base y.request) (hbody' : y.request.body = some body)
    (hc : y.request.credentials = some g.credentials)
    (ha : (∃ v, a = .ok v) ↔ y.reply.bytes?.isSome = true) :
    Applied base body [x, login, y] a := by
  have hposts : posts base [x, login, y] = [x, y] := by
    have hother : ¬ IsBlocking base login.request := fun h => not_isLogin_of_isBlocking h hlogin
    unfold posts
    rw [List.filter_cons_of_pos (by simpa using hx),
      List.filter_cons_of_neg (by simpa using hother),
      List.filter_cons_of_pos (by simpa using hy), List.filter_nil]
  exact {
    count := by
      rw [hposts]
      exact .inr rfl
    body := by
      intro z hz
      rw [hposts] at hz
      rcases List.mem_cons.mp hz with rfl | hz
      · exact hbody
      · rw [List.mem_singleton.mp hz]
        exact hbody'
    second := by
      intro x' y' h
      rw [hposts] at h
      cases h
      exact ⟨hno, login, g, rfl, hlogin, hg, hc⟩
    ok_iff := by
      rw [hposts, ha]
      simp
    once := by
      -- the refused one is not accepted
      rw [hposts, List.filter_cons_of_neg (by simp [not_isAccepted hno])]
      exact List.length_filter_le _ [y] }

/-- What is said of a good result does not matter. -/
theorem Applied.map {β : Type} (f : α → β) (h : Applied base body log a) :
    Applied base body log (a.map f) := by
  have hok : (∃ v, a.map f = .ok v) ↔ ∃ v, a = .ok v := by
    cases a <;> simp [Except.map]
  exact { h with ok_iff := hok.trans h.ok_iff }

/-- After a refusal that nothing was made of, no post is good. -/
theorem not_ok_of_isRefusal {e : Fault} {reply : Reply} (hno : reply.isRefusal = true) :
    (∃ v : α, Except.error e = .ok v) ↔ reply.bytes?.isSome = true := by
  refine iff_of_false (fun ⟨_, h⟩ => nomatch h) ?_
  rw [bytes?_of_isRefusal hno]
  nofun

/-- A session that can be sent applies the action. -/
theorem applied_of_pursued {password : Option String} {c : Option Credentials}
    {a : Except Fault Unit} (hc : c.all Credentials.canBeSent = true)
    (hp : Pursued (blockingErrand base body) base password c log a) : Applied base body log a := by
  cases hp with
  | settled ht ha =>
    cases ht with
    | @sent reply _ _ hres =>
      refine applied_one (isBlocking_blockingErrand c) rfl nofun ?_
      rw [← hres]
      exact blockingResult_ok_iff
    | unsent hc' => cases hc'.symm.trans hc
  | @refused reply log _ _ hno hr =>
    have hfirst : IsBlocking base ((blockingErrand base body).request c) :=
      isBlocking_blockingErrand c
    have hlone {p : String} {reply' : Reply} :
        ∀ y ∈ [(⟨loginRequest base p, reply'⟩ : Exchange)], ¬ IsBlocking base y.request := by
      intro y hy
      rw [List.mem_singleton.mp hy]
      exact not_isBlocking_loginRequest
    cases hr with
    | unset => exact applied_one hfirst rfl nofun (not_ok_of_isRefusal hno)
    | failed hl => exact applied_one hfirst rfl hlone (not_ok_of_isRefusal hno)
    | @helped p reply' g log' _ hl ht ha =>
      cases ht with
      | @sent reply'' _ _ hres =>
        refine applied_two hfirst rfl hno isLogin_loginRequest (grant?_of_loginResult hl)
          (isBlocking_blockingErrand _) rfl rfl ?_
        rw [← hres]
        exact blockingResult_ok_iff
      | unsent _ => exact applied_one hfirst rfl hlone (not_ok_of_isRefusal hno)
    | vain hl hno' =>
      exact applied_two hfirst rfl hno isLogin_loginRequest (grant?_of_loginResult hl)
        (isBlocking_blockingErrand _) rfl rfl (not_ok_of_isRefusal hno')

/-- A session that cannot be sent lets nothing be sent. -/
theorem unsent_of_pursued {password : Option String} {c : Option Credentials}
    {a : Except Fault Unit} (hc : c.all Credentials.canBeSent = false)
    (hp : Pursued (blockingErrand base body) base password c log a) :
    log = [] ∧ a = .error (.request (base ++ "/api/dns/blocking")) := by
  cases hp with
  | settled ht ha =>
    cases ht with
    | sent hc' _ => cases hc'.symm.trans hc
    | unsent _ => exact ⟨rfl, rfl⟩
  | refused hc' _ _ => cases hc'.symm.trans hc

-- =============================================================== actions

/-- In every run of an action, whatever is in the cache and however it is
answered: one that the service does not have, or whose parameters cannot be
read, fails without a request and leaves all as it is. Any other posts the
blocking and reports faithfully on it, unless there is a session that cannot
be sent, and then it fails without a request. -/
theorem act_blocks_once (srv : Server σ) (r : Record) (action : String) (params : Params)
    (s : Scene σ) :
    Ends srv (act r action params) s fun a s' log =>
      (action ≠ setBlockingName ∨ r.version = v5 ∨ SetBlocking.ofParams? params = none →
        (∃ e, a = .error e) ∧ log = [] ∧ s' = s) ∧
      (∀ asked, action = setBlockingName → r.version ≠ v5 →
        SetBlocking.ofParams? params = some asked →
        ((sessionAt srv s).all Credentials.canBeSent = true →
          Applied r.baseUrl asked.body log a ∧ ∀ text, a = .ok text → text = asked.description) ∧
        ((sessionAt srv s).all Credentials.canBeSent = false →
          log = [] ∧ a = .error (.request (r.baseUrl ++ "/api/dns/blocking")))) := by
  unfold act
  by_cases haction : action = setBlockingName
  · rw [if_neg (not_not_intro haction)]
    by_cases hversion : r.version = v5
    · rw [if_pos hversion]
      exact Ends.done ⟨fun _ => ⟨⟨_, rfl⟩, rfl, rfl⟩, fun _ _ h => absurd hversion h⟩
    · rw [if_neg hversion]
      cases hparams : SetBlocking.ofParams? params with
      | none => exact Ends.done ⟨fun _ => ⟨⟨_, rfl⟩, rfl, rfl⟩, fun _ _ _ h => nomatch h⟩
      | some asked =>
        refine Ends.bind (pursued_block (r.note? passwordNote) s) fun a s' log hp => Ends.done ?_
        rw [List.append_nil]
        refine ⟨?_, ?_⟩
        · intro h
          rcases h with h | h | h
          · exact absurd haction h
          · exact absurd h hversion
          · cases h
        · intro asked' _ _ hasked
          cases hasked
          refine ⟨fun hc => ⟨(applied_of_pursued hc hp).map _, ?_⟩, fun hc => ?_⟩
          · intro text htext
            cases a with
            | ok _ =>
              cases htext
              rfl
            | error e => cases htext
          · obtain ⟨hlog, ha⟩ := unsent_of_pursued hc hp
            rw [ha]
            exact ⟨hlog, rfl⟩
  · rw [if_pos haction]
    exact Ends.done ⟨fun _ => ⟨⟨_, rfl⟩, rfl, rfl⟩, fun _ h => absurd h haction⟩

/-- An action that logs in for its second post, and one that the service
does not have. -/
theorem actions_at_desk_block_once :
    let srv := desk 0 "http://h" "a" plainGrant
    let out : Scene Bool := { server := false }
    let r := recordOf "http://h" "p"
    let block := act r setBlockingName [("enabled", .bool true)]
    (posts "http://h" (block.exchanges srv out)).length = 2 ∧
    Applied "http://h" (SetBlocking.mk true none).body (block.exchanges srv out)
      (block.run srv out).1 ∧
    (∃ e, ((act r "reboot" []).run srv out).1 = .error e) := by
  intro srv out r block
  obtain ⟨-, happlied⟩ := act_blocks_once srv r setBlockingName [("enabled", .bool true)] out
  obtain ⟨hfails, -⟩ := act_blocks_once srv r "reboot" [] out
  refine ⟨by decide +kernel, ?_, (hfails (.inl (by decide))).1⟩
  exact ((happlied ⟨true, none⟩ rfl (by decide) (by decide)).1 (by decide)).1

/-- A host that sends posts on to a page of its own. -/
def turnstile : Server Unit where
  reply r x :=
    if r.method = .post then (.response { status := 301, location := some "http://h/done" }, x)
    else (.response { status := 200 }, x)
  now _ := 0

/-- An action that posts nothing, since the cached session cannot be sent.
And one that is reported as done, though the client saw no post of it
accepted. -/
theorem action_without_post :
    let r := recordOf "http://h" "p"
    let block := act r setBlockingName [("enabled", .bool true)]
    (posts "http://h" (block.exchanges (desk 0 "http://h" "a" plainGrant)
      { server := true, cache := some ⟨⟨"\x7f", "b"⟩, 290⟩ })).length = 0 ∧
    (block.run (turnstile.following inFull) { server := ((), []) }).1.toOption.isSome = true ∧
    ∀ x ∈ (block.run (turnstile.following inFull) { server := ((), []) }).2.server.2,
      x.request.method = .post → isAccepted x.reply = false := by
  intro r block
  refine ⟨by decide +kernel, by decide +kernel, ?_⟩
  have hall : (block.run (turnstile.following inFull) { server := ((), []) }).2.server.2.all
      (fun x => !decide (x.request.method = .post) || !isAccepted x.reply) = true := by
    decide +kernel
  intro x hx hpost
  simpa [hpost] using List.all_eq_true.mp hall x hx

end HostTelemetry.PiHole
