/-
The sessions that the plugin keeps, and what a clock that comes to an end
makes of its runs.

# What is kept

A dialogue of the plugin keeps all that its logins are granted, and nothing
else (`KeepsGrants`), so the sessions of a run can be read off its trail
(`grants_of_keepings`). For how long each is granted is up to the server: any
integer of 64 bits (`isInt64_of_grant?`).

# Runs

A turn on a clock that ends comes to the same as any other, or it breaks off,
and so does a run, by induction on its turns (`attempt_eq`). What decides is
whether the clock holds the end of each session that is kept on the way.
-/
import HostTelemetry.Proofs.Http.Clock
import HostTelemetry.Proofs.PiHole.Parts
import HostTelemetry.Proofs.PiHole.Trail
import HostTelemetry.Proofs.Text.Numerals

namespace HostTelemetry.PiHole

open Http (Credentials Dialogue Exchange Grant Keeping Reply)
open Http.Dialogue (Scene Server callRequest)
open Text (IsInt64)

variable {σ : Type} {srv : Server σ} {base : String}

-- ============================================================== logins

/-- What is granted in an exchange, if it is a login. -/
def grantOf? (base : String) (x : Exchange) : Option Grant :=
  if IsLogin base x.request then grant? x.reply else none

/-- A dialogue keeps all that its logins are granted, and nothing else. -/
def KeepsGrants (srv : Server σ) (base : String) (α : Type) (d : Dialogue α) : Prop :=
  ∀ s, (d.keepings srv s).map (·.grant) = (d.exchanges srv s).filterMap (grantOf? base)

theorem keepsGrants_call {method : Http.Method} {url : String}
    {credentials : Option Credentials} {body : Option Json}
    (h : ¬ IsLogin base (callRequest method url credentials body)) :
    KeepsGrants srv base _ (Http.call method url credentials body) := by
  have hnone : ∀ reply, grantOf? base ⟨callRequest method url credentials body, reply⟩ = none :=
    fun _ => if_neg h
  intro s
  unfold Http.call
  split
  · show [] = List.filterMap (grantOf? base) [⟨callRequest method url credentials body, _⟩]
    rw [List.filterMap_cons_none (hnone _)]
    rfl
  · rfl

/-- What a reply grants is what a login with it comes to. -/
theorem grant?_eq_toOption (base : String) (reply : Reply) :
    grant? reply = (loginResult base reply).toOption := by
  cases hl : loginResult base reply with
  | ok g => exact grant?_of_loginResult hl
  | error e =>
    cases hg : grant? reply with
    | none => rfl
    | some g => cases hl.symm.trans (loginResult_of_grant? hg)

/-- A login is one request, and what is granted is kept at once. -/
theorem authenticate_eq (base password : String) :
    ∃ next, authenticate base password = .exchange (loginRequest base password) next ∧
      (∀ reply g, loginResult base reply = .ok g →
        next reply = .keep g (.done (.ok g.credentials))) ∧
      ∀ reply e, loginResult base reply = .error e → next reply = .done (.error e) := by
  refine ⟨_, rfl, fun reply g hl => ?_, fun reply e hl => ?_⟩
  · unfold loginResult at hl
    simp only [Dialogue.bind, hl]
  · unfold loginResult at hl
    simp only [Dialogue.bind, hl]
    rfl

theorem keepsGrants_authenticate (password : String) :
    KeepsGrants srv base _ (authenticate base password) := by
  obtain ⟨next, hlogin, hok, herror⟩ := authenticate_eq base password
  have hgrant : ∀ reply, grantOf? base ⟨loginRequest base password, reply⟩
      = (loginResult base reply).toOption :=
    fun reply => (if_pos ⟨rfl, rfl⟩).trans (grant?_eq_toOption base reply)
  intro s
  rw [hlogin]
  simp only [Dialogue.keepings, Dialogue.exchanges]
  cases hl : loginResult base (srv.reply (loginRequest base password) s.server).1 with
  | ok g =>
    rw [List.filterMap_cons_some ((hgrant _).trans (congrArg Except.toOption hl)), hok _ g hl]
    rfl
  | error e =>
    rw [List.filterMap_cons_none ((hgrant _).trans (congrArg Except.toOption hl)),
      herror _ e hl]
    rfl

theorem parts_keepsGrants (srv : Server σ) (base : String) :
    Parts (KeepsGrants srv base) base where
  done _ _ := rfl
  bind hd hf s := by
    rw [Dialogue.keepings_bind, Dialogue.exchanges_bind, List.map_append, List.filterMap_append,
      hd, hf]
  consult h s := h _ s
  forget h s := h _
  get url credentials := keepsGrants_call fun hl => nomatch hl.1
  post credentials body := keepsGrants_call (not_isLogin_of_isBlocking ⟨rfl, rfl⟩)
  login := keepsGrants_authenticate

-- ============================================================ validities

/-- The answer to a login names an integer of 64 bits. -/
theorem isInt64_of_ofSession? {j : Json} {a : LoginAnswer}
    (h : LoginAnswer.ofSession? j = some a) : IsInt64 a.validity := by
  obtain ⟨slots, -, h⟩ := Option.bind_eq_some_iff.mp h
  split at h
  · obtain ⟨valid, -, h⟩ := Option.bind_eq_some_iff.mp h
    obtain ⟨sid, -, h⟩ := Option.bind_eq_some_iff.mp h
    obtain ⟨csrf, -, h⟩ := Option.bind_eq_some_iff.mp h
    obtain ⟨validity, -, h⟩ := Option.bind_eq_some_iff.mp h
    cases h
    exact ⟨validity.le_toInt, Int.le_of_lt_add_one validity.toInt_lt⟩
  · cases h

theorem isInt64_of_ofJson? {j : Json} {a : LoginAnswer} (h : LoginAnswer.ofJson? j = some a) :
    IsInt64 a.validity := by
  obtain ⟨slots, -, h⟩ := Option.bind_eq_some_iff.mp h
  split at h
  · obtain ⟨session, -, h⟩ := Option.bind_eq_some_iff.mp h
    exact isInt64_of_ofSession? h
  · cases h

/-- So does what is granted. -/
theorem isInt64_of_grant? {reply : Reply} {g : Grant} (h : grant? reply = some g) :
    IsInt64 g.validity := by
  obtain ⟨a, ha, hgrant⟩ := Option.bind_eq_some_iff.mp h
  obtain ⟨j, -, hj⟩ := Option.bind_eq_some_iff.mp ha
  obtain ⟨-, hgrant⟩ := Option.ite_none_right_eq_some.mp hgrant
  cases hgrant
  exact isInt64_of_ofJson? hj

-- ================================================================== runs

/-- What the plugin is granted in an exchange. -/
def Spoken.grant? (x : Spoken) : Option Grant := grantOf? x.base x.toExchange

/-- The scene after a turn on a clock that ends, if the turn does not break
off. -/
def Turn.attempt (srv : Server σ) : Turn σ → Scene σ → Option (Scene σ)
  | .collect r, s => ((PiHole.collect r).attempt srv s).map (·.2)
  | .act r action params, s => ((PiHole.act r action params).attempt srv s).map (·.2)
  | .meanwhile f, s => some { s with server := f s.server }

/-- The sessions that the plugin keeps in a turn. -/
def Turn.keepings (srv : Server σ) : Turn σ → Scene σ → List Keeping
  | .collect r, s => (PiHole.collect r).keepings srv s
  | .act r action params, s => (PiHole.act r action params).keepings srv s
  | .meanwhile _, _ => []

/-- The scene after a run on a clock that ends, if no turn breaks off. -/
def attempt (srv : Server σ) : List (Turn σ) → Scene σ → Option (Scene σ)
  | [], s => some s
  | t :: rest, s => (t.attempt srv s).bind (attempt srv rest)

/-- The sessions that the plugin keeps in a run, the earliest first. -/
def keepings (srv : Server σ) : List (Turn σ) → Scene σ → List Keeping :=
  along (Turn.step srv) (Turn.keepings srv)

theorem Turn.attempt_eq (t : Turn σ) (s : Scene σ) :
    t.attempt srv s
      = if ∀ k ∈ t.keepings srv s, k.Fits then some (t.step srv s) else none := by
  cases t with
  | collect r =>
    rw [attempt, Dialogue.attempt_eq, apply_ite (Option.map _)]
    rfl
  | act r action params =>
    rw [attempt, Dialogue.attempt_eq, apply_ite (Option.map _)]
    rfl
  | meanwhile f => rfl

/-- On a clock that ends a run comes to the same, or it breaks off, namely
where the clock does not hold the end of a session that is kept. -/
theorem attempt_eq (srv : Server σ) (turns : List (Turn σ)) (s : Scene σ) :
    attempt srv turns s
      = if ∀ k ∈ keepings srv turns s, k.Fits then some (go (Turn.step srv) turns s)
        else none := by
  induction turns generalizing s with
  | nil => rfl
  | cons t rest ih =>
    have hall : (∀ k ∈ keepings srv (t :: rest) s, k.Fits)
        ↔ (∀ k ∈ t.keepings srv s, k.Fits) ∧ ∀ k ∈ keepings srv rest (t.step srv s), k.Fits :=
      List.forall_mem_append
    rw [attempt, Turn.attempt_eq]
    by_cases hturn : ∀ k ∈ t.keepings srv s, k.Fits
    · have hrest := hall.trans (and_iff_right hturn)
      rw [if_pos hturn, Option.bind_some, ih]
      simp only [hrest]
      rfl
    · rw [if_neg hturn, if_neg fun h => hturn (hall.mp h).1]
      rfl

/-- What is granted in a dialogue about a service. -/
theorem filterMap_grant?_spoken (base : String) (log : List Exchange) :
    (spoken base log).filterMap Spoken.grant? = log.filterMap (grantOf? base) :=
  List.filterMap_map

theorem Turn.grants_of_keepings (t : Turn σ) (s : Scene σ) :
    (t.keepings srv s).map (·.grant) = (t.said srv s).filterMap Spoken.grant? := by
  cases t with
  | collect r =>
    exact ((parts_keepsGrants srv r.baseUrl).collect s).trans (filterMap_grant?_spoken _ _).symm
  | act r action params =>
    exact ((parts_keepsGrants srv r.baseUrl).act action params s).trans
      (filterMap_grant?_spoken _ _).symm
  | meanwhile f => rfl

/-- What is kept in a run is what is granted in it. -/
theorem grants_of_keepings (srv : Server σ) (turns : List (Turn σ)) (s : Scene σ) :
    (keepings srv turns s).map (·.grant) = (trail srv turns s).filterMap Spoken.grant? := by
  induction turns generalizing s with
  | nil => rfl
  | cons t rest ih =>
    calc (keepings srv (t :: rest) s).map (·.grant)
      _ = (t.keepings srv s).map (·.grant)
          ++ (keepings srv rest (t.step srv s)).map (·.grant) := List.map_append
      _ = (t.said srv s).filterMap Spoken.grant?
          ++ (trail srv rest (t.step srv s)).filterMap Spoken.grant? := by
        rw [t.grants_of_keepings, ih]
      _ = (trail srv (t :: rest) s).filterMap Spoken.grant? := List.filterMap_append.symm

theorem isInt64_of_mem_keepings {turns : List (Turn σ)} {s : Scene σ} {k : Keeping}
    (hk : k ∈ keepings srv turns s) : IsInt64 k.grant.validity := by
  have hgrant : k.grant ∈ (trail srv turns s).filterMap Spoken.grant? := by
    rw [← grants_of_keepings]
    exact List.mem_map_of_mem hk
  obtain ⟨x, -, hx⟩ := List.mem_filterMap.mp hgrant
  obtain ⟨-, hx⟩ := Option.ite_none_right_eq_some.mp hx
  exact isInt64_of_grant? hx

end HostTelemetry.PiHole
