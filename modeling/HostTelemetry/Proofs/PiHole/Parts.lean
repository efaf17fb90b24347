/-
What holds of the parts of the plugin's dialogues holds of the whole.

A collection and an action are put together of few things: calls, a login,
looks at the cache, and giving up a session. `Parts` lists what a property of
dialogues needs for each of them. One lemma for each function of the plugin
follows the way in which it is put together, so a property that is kept by
putting dialogues together is proved of the parts only (`Parts.collect`,
`Parts.act`).

The calls that are no logins stand apart from the login, so that a property
may treat it as one step.
-/
import HostTelemetry.PiHole.Plugin

namespace HostTelemetry.PiHole

open Http (Credentials Dialogue)
open Service (Fault Params Record Report)

/-- A property of dialogues that the parts have, and that is kept where they
are put together. -/
structure Parts (P : (α : Type) → Dialogue α → Prop) (base : String) : Prop where
  done : ∀ {α : Type} (a : α), P α (.done a)
  bind : ∀ {α β : Type} {d : Dialogue α} {f : α → Dialogue β},
    P α d → (∀ a, P β (f a)) → P β (d.bind f)
  consult : ∀ {α : Type} {next : Option Credentials → Dialogue α},
    (∀ c, P α (next c)) → P α (.consult next)
  forget : ∀ {α : Type} {next : Dialogue α}, P α next → P α (.forget next)
  get : ∀ url credentials, P _ (Http.call .get url credentials none)
  post : ∀ credentials body,
    P _ (Http.call .post (base ++ "/api/dns/blocking") credentials (some body))
  login : ∀ password, P _ (authenticate base password)

namespace Parts

variable {P : (α : Type) → Dialogue α → Prop} {base : String}

-- ==================================================== single requests

theorem document {α β : Type} (h : Parts P base) {read? : Json → Option α} (url : String)
    (f : Except Fault α → β) : P β ((Http.getJson read? url).bind fun a => .done (f a)) :=
  h.bind (h.bind (h.get url none) fun _ => h.done _) fun _ => h.done _

theorem summary (h : Parts P base) (credentials : Option Credentials) :
    P _ (fetchSummary base credentials) :=
  h.bind (h.get _ credentials) fun _ => h.done _

theorem blocking (h : Parts P base) (body : Json) (credentials : Option Credentials) :
    P _ (postBlocking base body credentials) :=
  h.bind (h.post credentials body) fun _ => h.done _

/-- What is done about a fault: a refused session is given up, and then it is
tried again. -/
theorem settle {α : Type} (h : Parts P base) {again : Dialogue (Except Fault α)} (e : Fault)
    (hagain : P _ again) :
    P _ (if e.isUnauthorized then .forget again else .done (.error e)) := by
  split
  · exact h.forget hagain
  · exact h.done _

-- ========================================================= collections

theorem collectFresh (h : Parts P base) (password : Option String) :
    P _ (collectFresh base password) := by
  cases password with
  | none => exact h.done _
  | some password =>
    refine h.bind (h.login password) fun a => ?_
    cases a with
    | error e => exact h.done _
    | ok credentials =>
      refine h.bind (h.summary _) fun a => ?_
      cases a with
      | ok report => exact h.done _
      | error e => exact h.settle e (h.done _)

theorem collectCached (h : Parts P base) (password : Option String)
    (credentials : Option Credentials) : P _ (collectCached base password credentials) := by
  cases credentials with
  | none => exact h.collectFresh password
  | some credentials =>
    refine h.bind (h.summary _) fun a => ?_
    cases a with
    | ok report => exact h.done _
    | error e => exact h.settle e (h.collectFresh password)

theorem collectV6 (h : Parts P base) (password : Option String) :
    P _ (collectV6 base password) := by
  refine h.bind (h.summary _) fun a => ?_
  cases a with
  | ok report => exact h.done _
  | error e =>
    show P _ (if e.isUnauthorized then _ else _)
    cases e.isUnauthorized with
    | false => exact h.done _
    | true => exact h.consult (h.collectCached password)

theorem collectPublic (h : Parts P base) (e : Fault) : P _ (collectPublic base e) := by
  have hstate : P _ (fetchBlocking base) := h.document _ _
  unfold PiHole.collectPublic
  split
  · exact h.bind hstate fun _ => h.done _
  · exact h.done _
  · refine h.bind hstate fun a => ?_
    cases a <;> exact h.done _

/-- What holds of its parts holds of a collection. -/
theorem collect {r : Record} (h : Parts P r.baseUrl) : P _ (collect r) := by
  refine h.bind (h.document _ _) fun a => ?_
  cases a with
  | ok report => exact h.done _
  | error e =>
    refine h.bind (h.collectV6 _) fun a => ?_
    cases a with
    | ok report => exact h.done _
    | error e => exact h.collectPublic e

-- ============================================================= actions

theorem blockFresh (h : Parts P base) (body : Json) (password : Option String) :
    P _ (blockFresh base body password) := by
  cases password with
  | none => exact h.done _
  | some password =>
    refine h.bind (h.login password) fun a => ?_
    cases a with
    | error e => exact h.done _
    | ok credentials =>
      refine h.bind (h.blocking body _) fun a => ?_
      cases a with
      | ok done => exact h.done _
      | error e => exact h.settle e (h.done _)

theorem block (h : Parts P base) (password : Option String) (body : Json) :
    P _ (block base password body) := by
  refine h.consult fun credentials => h.bind (h.blocking body credentials) fun a => ?_
  cases a with
  | ok done => exact h.done _
  | error e => exact h.settle e (h.blockFresh body password)

/-- What holds of its parts holds of an action. -/
theorem act {r : Record} (h : Parts P r.baseUrl) (action : String) (params : Params) :
    P _ (act r action params) := by
  unfold PiHole.act
  split
  · exact h.done _
  · split
    · exact h.done _
    · split
      · exact h.done _
      · exact h.bind (h.block _ _) fun _ => h.done _

end Parts

end HostTelemetry.PiHole
