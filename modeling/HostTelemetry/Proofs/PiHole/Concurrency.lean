/-
A collection and an action at once, on one plugin and one session.

Both end a session when it was refused. They do so by emptying the place for
it, whatever is there by then. So a session can be lost that nobody refused:
one that the other has put there while the refusal was on its way, or one
that had expired, so that it was not even presented
(`race_removes_fresh_session`).

No other session is lost (`removed_session_was_refused_or_came_since`). The
plugin's part in this is that each of its functions minds its business: what
is presented is what was found or kept last, and the place is emptied on a
refusal of just that. The rest is true of any two such dialogues.
-/
import HostTelemetry.Proofs.Http.Interleaving
import HostTelemetry.Proofs.PiHole.Action

namespace HostTelemetry.PiHole

open Http (Credentials Dialogue Reply Session)
open Http.Dialogue (Choice Deed Duo Event Minds Removed Scene Server Side)
open Service (Fault Params Record Report)

variable {σ α : Type} {srv : Server σ} {base : String}
  {view : Option (Option Credentials)} {due : Bool}

-- ======================================================= single requests

/-- To the end of the dialogue. -/
abbrev Heeds (d : Dialogue α) (view : Option (Option Credentials)) (due : Bool) : Prop :=
  d.Minds (fun _ _ _ => True) view due

/-- A call does not change what is known of the cache. Where what is made of
its reply is a refusal, the cache may be emptied if the call carried what is
known. -/
theorem minds_call {method : Http.Method} {url : String} {c : Option Credentials}
    {body : Option Json} {f : Except Fault Bytes → Except Fault α}
    (hf : ∀ reply : Reply, refused (f (reply.content url)) = reply.isRefusal)
    (hu : refused (f (.error (.request url))) = false) :
    ((Http.call method url c body).bind fun a => .done (f a)).Minds
      (fun a view' due' => view' = view ∧ (refused a = true → view = some c → due' = true))
      view due := by
  unfold Http.call
  split
  · intro reply
    refine ⟨rfl, fun ha hview => ?_⟩
    rw [hf] at ha
    simp [hview, ha]
  · refine ⟨rfl, fun ha => ?_⟩
    rw [hu] at ha
    cases ha

theorem minds_fetchSummary (c : Option Credentials) :
    (fetchSummary base c).Minds
      (fun a view' due' => view' = view ∧ (refused a = true → view = some c → due' = true))
      view due := by
  refine minds_call (fun reply => ?_) rfl
  rw [refused_bind, refused_content]
  intro body
  rw [refused_bind, refused_decodeBody]
  exact fun j => refused_expect ..

theorem minds_postBlocking {body : Json} (c : Option Credentials) :
    (postBlocking base body c).Minds
      (fun a view' due' => view' = view ∧ (refused a = true → view = some c → due' = true))
      view due :=
  minds_call (fun reply => by rw [refused_map, refused_content]) rfl

theorem heeds_done (a : α) : Heeds (.done a) view due := trivial

/-- After a login the session is known that it has put there. -/
theorem minds_authenticate (password : String) :
    (authenticate base password).Minds
      (fun a view _ => ∀ c, a = .ok c → view = some (some c)) view due := by
  intro reply
  cases hg : grantOfAnswer (base ++ "/api/auth") (reply.content (base ++ "/api/auth")) with
  | ok g =>
    simp only [Dialogue.bind, hg]
    intro c hc
    cases hc
    rfl
  | error e =>
    simp only [Dialogue.bind, hg]
    intro c hc
    cases hc

-- ==================================================== composed dialogues

/-- What is made of a request that carries what is known of the cache. -/
theorem heeds_settle {d again : Dialogue (Except Fault α)}
    {f : Except Fault α → Dialogue (Except Fault α)} {c : Option Credentials}
    (hok : ∀ a, f (.ok a) = .done (.ok a))
    (herror : ∀ e, f (.error e) = if e.isUnauthorized then .forget again else .done (.error e))
    (hd : d.Minds
      (fun a view' due' => view' = some c ∧ (refused a = true → some c = some c → due' = true))
      (some c) due)
    (hagain : Heeds again none false) : Heeds (d.bind f) (some c) due := by
  refine Minds.bind hd ?_
  intro a view' due' ⟨_, hdue⟩
  cases a with
  | ok x =>
    rw [hok]
    exact heeds_done _
  | error e =>
    rw [herror]
    cases he : e.isUnauthorized with
    | false => exact heeds_done _
    | true => exact ⟨hdue he rfl, hagain⟩

/-- What is done with a fresh login, or without one where it failed. -/
theorem heeds_withLogin {β : Type} {f : Except Fault Credentials → Dialogue β} {password : String}
    (hfailed : ∀ e view due, Heeds (f (.error e)) view due)
    (hgranted : ∀ c due, Heeds (f (.ok c)) (some (some c)) due) :
    Heeds ((authenticate base password).bind f) view due := by
  refine Minds.bind (minds_authenticate password) ?_
  intro a view' due' hknown
  cases a with
  | error e => exact hfailed e view' due'
  | ok c =>
    rw [hknown c rfl]
    exact hgranted c due'

theorem heeds_collectFresh (password : Option String) :
    Heeds (collectFresh base password) view due := by
  cases password with
  | none => exact heeds_done _
  | some password =>
    refine heeds_withLogin (fun _ _ _ => heeds_done _) fun c due => ?_
    exact heeds_settle (fun _ => rfl) (fun _ => rfl) (minds_fetchSummary _) (heeds_done _)

theorem heeds_blockFresh {body : Json} (password : Option String) :
    Heeds (blockFresh base body password) view due := by
  cases password with
  | none => exact heeds_done _
  | some password =>
    refine heeds_withLogin (fun _ _ _ => heeds_done _) fun c due => ?_
    exact heeds_settle (fun _ => rfl) (fun _ => rfl) (minds_postBlocking _) (heeds_done _)

theorem heeds_collectV6 (password : Option String) :
    Heeds (collectV6 base password) view due := by
  refine Minds.bind (minds_fetchSummary none) ?_
  intro a view' due' _
  cases a with
  | ok report => exact heeds_done _
  | error e =>
    show Heeds (if e.isUnauthorized then _ else _) view' due'
    cases e.isUnauthorized with
    | false => exact heeds_done _
    | true =>
      intro found
      show Heeds (collectCached base password found) (some found) false
      cases found with
      | none => exact heeds_collectFresh password
      | some c =>
        exact heeds_settle (fun _ => rfl) (fun _ => rfl) (minds_fetchSummary _)
          (heeds_collectFresh password)

/-- The public state is asked for without a session, or not at all. -/
theorem heeds_collectPublic (e : Fault) : Heeds (collectPublic base e) view due := by
  have hpublic {f : Except Fault String → Dialogue (Except Fault Report)}
      (hf : ∀ a, ∃ b, f a = .done b) : Heeds ((fetchBlocking base).bind f) view due := by
    have hasked : Heeds (fetchBlocking base) view due := fun _ => trivial
    refine Minds.bind hasked ?_
    intro a view' due' _
    obtain ⟨b, hb⟩ := hf a
    rw [hb]
    exact heeds_done b
  cases e with
  | authRequired => exact hpublic fun _ => ⟨_, rfl⟩
  | authFailed reason => exact heeds_done _
  | _ => exact hpublic fun a => by cases a <;> exact ⟨_, rfl⟩

theorem heeds_collect (r : Record) : Heeds (collect r) view due := by
  have hold : Heeds (fetchV5 r.baseUrl) view due := fun _ => trivial
  refine Minds.bind hold ?_
  intro a view' due' _
  cases a with
  | ok report => exact heeds_done _
  | error _ =>
    refine Minds.bind (heeds_collectV6 (r.note? passwordNote)) ?_
    intro a view' due' _
    cases a with
    | ok report => exact heeds_done _
    | error e => exact heeds_collectPublic e

theorem heeds_block {body : Json} (password : Option String) :
    Heeds (block base password body) view due := by
  intro found
  exact heeds_settle (fun _ => rfl) (fun _ => rfl) (minds_postBlocking _)
    (heeds_blockFresh password)

theorem heeds_act (r : Record) (action : String) (params : Params) :
    Heeds (act r action params) view due := by
  unfold act
  split
  · exact heeds_done _
  split
  · exact heeds_done _
  cases SetBlocking.ofParams? params with
  | none => exact heeds_done _
  | some asked => exact Minds.bind (heeds_block _) fun _ _ _ _ => heeds_done _

-- =============================================================== sessions

/-- How one of the two has come to remove this session. When it last had to
do with the cache it found something there, or put it there, or found
nothing it could use. The last it did was a request that carried just that
and was refused. And the session is the one that the request carried, or the
other has put it there since, or it was there at that time and had expired. -/
def Deposed (i : Side) (before : List Event) (c : Session) : Prop :=
  ∃ early touch between x late,
    before = early ++ (i, touch) :: (between ++ (i, .said x) :: late) ∧
    (∀ e ∈ between, e.1 = i → e.2.isAccess = false) ∧ (∀ e ∈ late, e.1 ≠ i) ∧
    touch.view? = some x.request.credentials ∧ x.reply.isRefusal = true ∧
    (x.request.credentials = some c.credentials ∨
      (i.other, .kept c) ∈ between ++ late ∨
      x.request.credentials = none ∧ ∃ now, touch = .looked (some c) now ∧ c.isValid now = false)

/-- What was there when one of the two last had to do with it was carried by
its request, or had expired. -/
theorem carried_of_content {touch : Deed} {carried : Option Credentials} {c : Session}
    (hview : touch.view? = some carried) (hcontent : touch.content? = some c) :
    carried = some c.credentials ∨
      carried = none ∧ ∃ now, touch = .looked (some c) now ∧ c.isValid now = false := by
  cases touch with
  | said x => cases hview
  | rested => cases hview
  | emptied cache => cases hview
  | kept x =>
    cases hview
    cases hcontent
    exact .inl rfl
  | looked cache now =>
    have hcache : cache = some c := hcontent
    subst hcache
    have hcarried := Option.some.inj hview
    unfold Http.usable at hcarried
    cases hvalid : c.isValid now with
    | true =>
      rw [Option.filter_some_pos hvalid] at hcarried
      exact .inl hcarried.symm
    | false =>
      refine .inr ⟨?_, now, rfl, hvalid⟩
      rw [← hcarried]
      simp [hvalid]

theorem deposed_of_removed {i : Side} {before : List Event} {c : Session}
    (h : Removed i before c) : Deposed i before c := by
  obtain ⟨early, touch, since, _, rfl, hview, ⟨hidle, hstore⟩, between, x, late, rfl, hlate,
    rfl, hno⟩ := h
  refine ⟨early, touch, between, x, late, rfl, ?_, hlate, hview, hno, ?_⟩
  · intro e he
    exact hidle e (List.mem_append_left _ he)
  · rcases hstore c rfl with hcontent | hkept
    · rcases carried_of_content hview hcontent with hcarried | hexpired
      · exact .inl hcarried
      · exact .inr (.inr hexpired)
    · right
      left
      rcases List.mem_append.mp hkept with hkept | hkept
      · exact List.mem_append_left _ hkept
      · rcases List.mem_cons.mp hkept with heq | hkept
        · exact nomatch (Prod.mk.inj heq).2
        · exact List.mem_append_right _ hkept

/-- In every run of a collection and an action at once, in whatever order
they take their steps, and whatever the server and the world do: a session
that is removed was refused to the one who removes it, or came from the
other since that one last saw the cache, or had expired by then. -/
theorem removed_session_was_refused_or_came_since (srv : Server σ) (r r' : Record)
    (action : String) (params : Params) (s : Scene σ) (choices : List (Choice σ)) {i : Side}
    {before after : List Event} {c : Session}
    (hrun : Duo.history srv choices ⟨collect r, act r' action params, s⟩
      = before ++ (i, .emptied (some c)) :: after) :
    Deposed i before c := by
  have hsound : Duo.Sound [] (⟨collect r, act r' action params, s⟩ : Duo σ _ _) :=
    ⟨⟨none, false, heeds_collect r, .nil ..⟩, none, false, heeds_act r' action params, .nil ..⟩
  exact deposed_of_removed (Http.Dialogue.emptied_of_minds hsound hrun)

-- ======================================================== runs at the desk

/-- Whether an event removes this session. -/
def removes (c : Session) : Event → Bool
  | (_, .emptied (some x)) => x == c
  | _ => false

/-- Whether in an event this login is refused. -/
def refuses (c : Credentials) : Event → Bool
  | (_, .said x) => x.request.credentials == some c && x.reply.isRefusal
  | _ => false

theorem exists_removal {h : List Event} {c : Session} (hany : h.any (removes c) = true) :
    ∃ before i after, h = before ++ (i, .emptied (some c)) :: after := by
  obtain ⟨⟨i, deed⟩, he, hremoves⟩ := List.any_eq_true.mp hany
  obtain ⟨before, after, hsplit⟩ := List.append_of_mem he
  refine ⟨before, i, after, ?_⟩
  unfold removes at hremoves
  split at hremoves
  next heq =>
    cases heq
    rw [eq_of_beq hremoves] at hsplit
    exact hsplit
  next => cases hremoves

/-- A collection and an action that share this session at first. -/
def pair (cached : Session) : Duo Bool (Except Fault Report) (Except Fault String) where
  left := collect (recordOf "http://h" "p")
  right := act (recordOf "http://h" "p") setBlockingName [("enabled", .bool true)]
  scene := { server := false, cache := some cached }

/-- Some turns for one of the two. -/
def turns (n : Nat) (i : Side) : List (Choice Bool) := List.replicate n (.turn i)

/-- The collection alone, with a session that is refused. -/
theorem collection_removes_refused_session :
    ∃ before i after, Duo.history (desk 0 "http://h" "a" plainGrant) (turns 5 .left)
        (pair ⟨⟨"o", ""⟩, 290⟩) = before ++ (i, .emptied (some ⟨⟨"o", ""⟩, 290⟩)) :: after ∧
      Deposed i before ⟨⟨"o", ""⟩, 290⟩ := by
  have hany : (Duo.history (desk 0 "http://h" "a" plainGrant) (turns 5 .left)
      (pair ⟨⟨"o", ""⟩, 290⟩)).any (removes ⟨⟨"o", ""⟩, 290⟩) = true := by
    decide +kernel
  obtain ⟨before, i, after, hrun⟩ := exists_removal hany
  exact ⟨before, i, after, hrun, removed_session_was_refused_or_came_since _ _ _ _ _ _ _ hrun⟩

/-- A session is removed only if it was presented and refused. -/
def RemovesRefusedOnly (h : List Event) : Prop :=
  ∀ before i c after, h = before ++ (i, .emptied (some c)) :: after →
    before.any (refuses c.credentials) = true

theorem not_removesRefusedOnly {h : List Event} {c : Session} (hany : h.any (removes c) = true)
    (hnone : h.any (refuses c.credentials) = false) : ¬ RemovesRefusedOnly h := by
  intro honly
  obtain ⟨before, i, after, hrun⟩ := exists_removal hany
  have hbefore := honly before i c after hrun
  rw [hrun, List.any_append, hbefore] at hnone
  cases hnone

/-- The old session is refused to the collection. While that answer is on its
way, it is refused to the action too, which logs in and keeps a new session;
and when the answer arrives, the collection removes the new one. And an
action removes a session that has expired, which nobody has presented. -/
theorem race_removes_fresh_session :
    ¬ RemovesRefusedOnly (Duo.history (desk 0 "http://h" "a" plainGrant)
      (turns 4 .left ++ turns 5 .right ++ turns 1 .left) (pair ⟨⟨"o", ""⟩, 290⟩)) ∧
    ¬ RemovesRefusedOnly (Duo.history (desk 0 "http://h" "a" plainGrant) (turns 3 .right)
      (pair ⟨⟨"o", ""⟩, 0⟩)) := by
  constructor
  · have hremoved : (Duo.history (desk 0 "http://h" "a" plainGrant)
        (turns 4 .left ++ turns 5 .right ++ turns 1 .left) (pair ⟨⟨"o", ""⟩, 290⟩)).any
          (removes ⟨⟨"a", "b"⟩, 290⟩) = true := by
      decide +kernel
    exact not_removesRefusedOnly hremoved (by decide +kernel)
  · have hremoved : (Duo.history (desk 0 "http://h" "a" plainGrant) (turns 3 .right)
        (pair ⟨⟨"o", ""⟩, 0⟩)).any (removes ⟨⟨"o", ""⟩, 0⟩) = true := by
      decide +kernel
    exact not_removesRefusedOnly hremoved (by decide +kernel)

end HostTelemetry.PiHole
