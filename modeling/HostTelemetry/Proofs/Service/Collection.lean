/-
Collections: what is published of each service, and that none of them has
a part in what is published of another.

# Visits

A collection asks each service of which there is a record, in the order of
the plugins (`Detector.visits`). All of them have the same time, each for
itself, so what comes of a visit is what its dialogue comes to if that
takes no longer than the budget, and a timeout if it does
(`outcomes_eq_visits`). There is one entry for each visit, and `Shows`
says what it holds. The list of them is sent once, in whatever order the
subscribers are gone through, and then waits for everybody whom it reaches.

# One plugin apart

Two collections may have the same plugins and differ in what is known of
one service, or in what came of asking it (`DifferOnlyAt`). The entry of
that plugin is then all that differs between the two lists, and its record
all that differs between what is known afterwards: the versions that
reports tell are written back one by one, each to the plugin's own record.
Where a server answers each request for itself, it is enough that the
other plugins are the same: whatever the one does, and however long it
takes, nobody else is answered in another way (`differOnlyAt_of_steady`).
-/
import Mathlib.Data.List.Forall2
import Mathlib.Data.List.Nodup
import HostTelemetry.Proofs.Broadcast.Isolation
import HostTelemetry.Proofs.Service.Recorded

namespace HostTelemetry.Service

open Http (Dialogue)
open Http.Dialogue (Scene Server)

variable {σ τ : Type} {srv : Server σ} {srv' : Server τ}

-- ================================================================ visits

/-- A service that is asked, its record, and the server as it is then. -/
structure Visit (σ : Type) where
  member : Member
  record : Record
  server : σ

namespace Visit

/-- The plugin and its record. -/
def target (v : Visit σ) : Target := ⟨v.member.plugin.identity, v.record⟩

/-- The dialogue with the service, as if there were no budget. -/
def dialogue (srv : Server σ) (v : Visit σ) : Outcome × Scene σ :=
  (v.member.plugin.collect v.record).run srv { server := v.server, cache := v.member.cache }

/-- What comes of a visit: what the dialogue comes to, if it takes no longer
than the budget. -/
def outcome (srv : Server σ) (budget : Nat) (v : Visit σ) : Outcome :=
  if (v.dialogue srv).2.elapsed ≤ budget then (v.dialogue srv).1 else .error (.timeout budget)

end Visit

/-- The visits to the services of some plugins, where the records are those
of a registry. -/
def visitsOf (srv : Server σ) (budget : Nat) (g : Registry) : List Member → σ → List (Visit σ)
  | [], _ => []
  | m :: rest, server =>
    match g.records.get? m.id with
    | none => visitsOf srv budget g rest server
    | some r =>
      ⟨m, r, server⟩ ::
        visitsOf srv budget g rest (m.lead srv budget (m.plugin.collect r) server).server

section Visits

variable {budget : Nat} {g : Registry} {m : Member} {rest : List Member} {server : σ}

theorem visitsOf_cons_none (h : g.records.get? m.id = none) :
    visitsOf srv budget g (m :: rest) server = visitsOf srv budget g rest server := by
  simp only [visitsOf, h]

theorem visitsOf_cons_some {r : Record} (h : g.records.get? m.id = some r) :
    visitsOf srv budget g (m :: rest) server
      = ⟨m, r, server⟩ ::
        visitsOf srv budget g rest (m.lead srv budget (m.plugin.collect r) server).server := by
  simp only [visitsOf, h]

end Visits

/-- The visits of a collection. -/
def Detector.visits (d : Detector) (srv : Server σ) (server : σ) : List (Visit σ) :=
  visitsOf srv d.budgets.collect d.registry d.members server

/-- The outcomes of a list of visits. -/
def outcomesOf (srv : Server σ) (budget : Nat) (visits : List (Visit σ)) :
    List (Target × Outcome) :=
  visits.map fun v => (v.target, v.outcome srv budget)

theorem result_lead (v : Visit σ) (budget : Nat) :
    ((v.member.lead srv budget (v.member.plugin.collect v.record) v.server).result).getD
      (.error (.timeout budget)) = v.outcome srv budget := by
  unfold Member.lead Visit.outcome Visit.dialogue
  dsimp only
  split
  · next hle =>
    rw [Dialogue.runWithin_of_le _ _ hle]
    rfl
  · next hover =>
    rw [Dialogue.runWithin_of_lt _ _ (Nat.zero_le _) (Nat.lt_of_not_le hover)]
    rfl

theorem results_sweep (budget : Nat) (g : Registry) (members : List Member) (server : σ) :
    ((sweep srv budget (Detector.collectTask g) members server).results.map fun (t, r) =>
        (t, r.getD (.error (.timeout budget))))
      = outcomesOf srv budget (visitsOf srv budget g members server) := by
  induction members generalizing server with
  | nil => rfl
  | cons m rest ih =>
    cases hr : g.records.get? m.id with
    | none =>
      have htask : Detector.collectTask g m = none := by simp [Detector.collectTask, hr]
      rw [visitsOf_cons_none hr, sweep, htask]
      exact ih server
    | some r =>
      have htask : Detector.collectTask g m
          = some (⟨m.plugin.identity, r⟩, m.plugin.collect r) := by
        simp [Detector.collectTask, hr]
      rw [visitsOf_cons_some hr, sweep, htask, outcomesOf, List.map_cons, List.map_cons,
        ← outcomesOf, ← ih, ← result_lead]
      rfl

/-- What a collection takes over is what came of its visits. -/
theorem outcomes_eq_visits (d : Detector) (server : σ) :
    d.outcomes srv server = outcomesOf srv d.budgets.collect (d.visits srv server) :=
  results_sweep d.budgets.collect d.registry d.members server

theorem visitsOf_members (budget : Nat) (g : Registry) (members : List Member) (server : σ) :
    (visitsOf srv budget g members server).map (fun v => (v.member, v.record))
      = members.filterMap fun m => (g.records.get? m.id).map fun r => (m, r) := by
  induction members generalizing server with
  | nil => rfl
  | cons m rest ih =>
    cases hr : g.records.get? m.id with
    | none =>
      rw [visitsOf_cons_none hr, List.filterMap_cons_none (by rw [hr, Option.map_none])]
      exact ih server
    | some r =>
      rw [visitsOf_cons_some hr, List.filterMap_cons_some (by rw [hr, Option.map_some]),
        List.map_cons, ih]

-- =============================================================== entries

/-- No fault is without a text. -/
theorem Fault.message_ne_empty (f : Fault) : f.message ≠ "" := by
  have hstart : ∀ start rest : String, start ≠ "" → start ++ rest ≠ "" :=
    fun start rest h heq => h (String.append_eq_empty_iff.mp heq).1
  cases f with
  | request url => exact hstart _ _ (hstart "request to " _ (by decide))
  | status url code =>
    have hmiddle : toString url ++ toString " returned HTTP " ≠ "" :=
      fun heq => absurd (String.append_eq_empty_iff.mp heq).2 (by decide)
    exact hstart _ _ hmiddle
  | malformed url reason =>
    exact hstart _ _ (hstart _ _ (hstart "unexpected response from " _ (by decide)))
  | authRequired => decide
  | authFailed reason => exact hstart "authentication failed: " _ (by decide)
  | timeout millis => exact hstart "timed out after " _ (by decide)
  | unsupportedAction what => exact hstart "unsupported action: " _ (by decide)
  | invalidParams reason =>
    cases reason with
    | none => decide
    | some reason => exact hstart "invalid parameters: " _ (by decide)
  | notDetected plugin => exact hstart "service not detected: " _ (by decide)

/-- What an entry holds of a fault: its text, and a mark if the login was
refused. -/
structure ShowsFault (f : Fault) (e : Entry) : Prop where
  status : e.status = .error
  summary : e.summary = []
  error : e.error = some f.message
  text : f.message ≠ ""
  refused : ∀ reason, f = .authFailed reason → e.stats = [("authFailed", .bool true)]
  other : (∀ reason, f ≠ .authFailed reason) → e.stats = []

/-- What an entry holds of a report: all of it, but for the version. -/
structure ShowsReport (r : Report) (e : Entry) : Prop where
  status : e.status = r.status
  summary : e.summary = r.summary
  stats : e.stats = r.stats
  error : e.error = none

/-- What an entry holds of a service that was asked, and of what came of
it. -/
structure Shows (t : Target) (o : Outcome) (e : Entry) : Prop where
  pluginId : e.pluginId = t.identity.id
  name : e.name = t.identity.name
  icon : e.icon = t.identity.icon
  url : e.url = t.record.baseUrl
  fault : ∀ f, o = .error f → ShowsFault f e
  report : ∀ r, o = .ok r → ShowsReport r e

theorem showsFault_entryOf (t : Target) (f : Fault) :
    ShowsFault f (Registry.entryOf t (.error f)) where
  status := rfl
  summary := rfl
  error := rfl
  text := f.message_ne_empty
  refused := by
    rintro reason rfl
    rfl
  other := by
    intro hother
    cases f with
    | authFailed reason => exact absurd rfl (hother reason)
    | _ => rfl

theorem shows_entryOf (t : Target) (o : Outcome) : Shows t o (Registry.entryOf t o) := by
  cases o with
  | ok r =>
    refine ⟨rfl, rfl, rfl, rfl, fun f hf => ?_, fun r' hr' => ?_⟩
    · cases hf
    · cases hr'
      exact ⟨rfl, rfl, rfl, rfl⟩
  | error f =>
    refine ⟨rfl, rfl, rfl, rfl, fun f' hf' => ?_, fun r hr => ?_⟩
    · cases hf'
      exact showsFault_entryOf t f
    · cases hr

/-- There is one entry for each outcome that is taken over. -/
theorem entries_collect (d : Detector) (meanwhile : List Setting) (server : σ) :
    (d.collect srv meanwhile server).detector.entries
      = (d.outcomes srv server).map fun (t, o) => Registry.entryOf t o := rfl

-- ====================================================== one plugin apart

/-- Two collections that differ at most in one plugin: they have the same
plugins, and of the others the same is known and the same comes of asking
them. -/
structure DifferOnlyAt (p : String) (srv : Server σ) (d : Detector) (server : σ)
    (srv' : Server τ) (d' : Detector) (server' : τ) : Prop where
  plugins : d'.identities = d.identities
  known : ∀ id, id ≠ p → d'.registry.knowledge id = d.registry.knowledge id
  heard : ∀ v ∈ d.visits srv server, ∀ v' ∈ d'.visits srv' server',
    v'.member.id = v.member.id → v.member.id ≠ p →
      v'.outcome srv' d'.budgets.collect = v.outcome srv d.budgets.collect

/-- The outcomes of all plugins but one. -/
def without (p : String) (outcomes : List (Target × Outcome)) : List (Target × Outcome) :=
  outcomes.filter fun (t, _) => t.identity.id ≠ p

theorem without_cons (p : String) (o : Target × Outcome) (rest : List (Target × Outcome)) :
    without p (o :: rest)
      = if o.1.identity.id = p then without p rest else o :: without p rest := by
  by_cases h : o.1.identity.id = p
  · simp [without, h]
  · simp [without, h]

/-- The plugin that is left out has its visit, or it has none. -/
theorem without_visitsOf (srv : Server σ) {p : String} {budget : Nat} {g : Registry} {m : Member}
    (hp : m.id = p) (rest : List Member) (server : σ) :
    ∃ later, without p (outcomesOf srv budget (visitsOf srv budget g (m :: rest) server))
        = without p (outcomesOf srv budget (visitsOf srv budget g rest later)) ∧
      ∀ v ∈ visitsOf srv budget g rest later, v ∈ visitsOf srv budget g (m :: rest) server := by
  cases hr : g.records.get? m.id with
  | none =>
    rw [visitsOf_cons_none hr]
    exact ⟨server, rfl, fun v hv => hv⟩
  | some r =>
    rw [visitsOf_cons_some hr]
    refine ⟨_, ?_, fun v hv => List.mem_cons_of_mem _ hv⟩
    exact (without_cons p _ _).trans (if_pos hp)

/-- The induction is over both lists of plugins. At each visit the servers
may be in any states, so the hypothesis is about outcomes alone. -/
theorem without_outcomesOf {p : String} {budget budget' : Nat} {g g' : Registry}
    (hknown : ∀ id, id ≠ p → g'.knowledge id = g.knowledge id) {members members' : List Member}
    (hplugins : members'.map (·.plugin.identity) = members.map (·.plugin.identity))
    {server : σ} {server' : τ}
    (hheard : ∀ v ∈ visitsOf srv budget g members server,
      ∀ v' ∈ visitsOf srv' budget' g' members' server',
        v'.member.id = v.member.id → v.member.id ≠ p →
          v'.outcome srv' budget' = v.outcome srv budget) :
    without p (outcomesOf srv' budget' (visitsOf srv' budget' g' members' server'))
      = without p (outcomesOf srv budget (visitsOf srv budget g members server)) := by
  induction members generalizing members' server server' with
  | nil =>
    obtain rfl := List.map_eq_nil_iff.mp hplugins
    rfl
  | cons m rest ih =>
    obtain ⟨m', rest', rfl, hm, hrest⟩ := List.map_eq_cons_iff.mp hplugins
    have hid : m'.id = m.id := congrArg Identity.id hm
    by_cases hp : m.id = p
    · -- Its own visits may differ, and may leave the servers in other states.
      obtain ⟨later, heq, hmem⟩ := without_visitsOf srv hp rest server
      obtain ⟨later', heq', hmem'⟩ := without_visitsOf srv' (hid.trans hp) rest' server'
      rw [heq, heq']
      exact ih hrest fun v hv v' hv' => hheard v (hmem v hv) v' (hmem' v' hv')
    · have hrecord : g'.records.get? m'.id = g.records.get? m.id := by
        rw [hid]
        exact congrArg Knowledge.record (hknown m.id hp)
      cases hr : g.records.get? m.id with
      | none =>
        rw [visitsOf_cons_none hr, visitsOf_cons_none (hrecord.trans hr)] at hheard ⊢
        exact ih hrest hheard
      | some r =>
        rw [visitsOf_cons_some hr, visitsOf_cons_some (hrecord.trans hr)] at hheard ⊢
        have hfirst := hheard _ List.mem_cons_self _ List.mem_cons_self hid hp
        have hlater := ih hrest fun v hv v' hv' =>
          hheard v (List.mem_cons_of_mem _ hv) v' (List.mem_cons_of_mem _ hv')
        simp only [outcomesOf, List.map_cons, without_cons, Visit.target] at hlater ⊢
        rw [hfirst, hm, hlater]

variable {p : String} {d d' : Detector} {server : σ} {server' : τ}

/-- The same is taken over of all others. -/
theorem DifferOnlyAt.outcomes (h : DifferOnlyAt p srv d server srv' d' server') :
    without p (d'.outcomes srv' server') = without p (d.outcomes srv server) := by
  rw [outcomes_eq_visits, outcomes_eq_visits]
  exact without_outcomesOf h.known h.plugins h.heard

/-- So the same is published of them. -/
theorem DifferOnlyAt.entries (h : DifferOnlyAt p srv d server srv' d' server')
    (meanwhile : List Setting) :
    (d'.collect srv' meanwhile server').detector.entries.filter (·.pluginId ≠ p)
      = (d.collect srv meanwhile server).detector.entries.filter (·.pluginId ≠ p) := by
  have hfilter : ∀ outcomes : List (Target × Outcome),
      (outcomes.map fun (t, o) => Registry.entryOf t o).filter (·.pluginId ≠ p)
        = (without p outcomes).map fun (t, o) => Registry.entryOf t o := by
    intro outcomes
    rw [List.filter_map]
    refine congrArg _ (List.filter_congr fun o _ => ?_)
    rw [Function.comp_apply, (shows_entryOf o.1 o.2).pluginId]
  rw [entries_collect, entries_collect, hfilter, hfilter, h.outcomes]

/-- What happens to a plugin in a collection is among what is taken over of
the others, if it is another. -/
theorem occasionsOf_without {id : String} (hid : id ≠ p) (outcomes : List (Target × Outcome)) :
    occasionsOf id ((without p outcomes).map Registry.reportedOf)
      = occasionsOf id (outcomes.map Registry.reportedOf) := by
  induction outcomes with
  | nil => rfl
  | cons o rest ih =>
    rw [List.map_cons, occasionsOf_cons, without_cons]
    by_cases ho : o.1.identity.id = p
    · have hother : ¬ (Registry.reportedOf o).1 = id := fun heq => hid (heq.symm.trans ho)
      rw [if_pos ho, if_neg hother]
      exact ih
    · rw [if_neg ho, List.map_cons, occasionsOf_cons, ih]

/-- And so the same is known of them afterwards. -/
theorem DifferOnlyAt.knowledge (h : DifferOnlyAt p srv d server srv' d' server')
    (meanwhile : List Setting) {id : String} (hid : id ≠ p) :
    (d'.collect srv' meanwhile server').detector.registry.knowledge id
      = (d.collect srv meanwhile server).detector.registry.knowledge id := by
  have hall : ∀ {ρ : Type} (srv : Server ρ) (d : Detector) (server : ρ),
      (d.collect srv meanwhile server).detector.registry.knowledge id
        = (occasionsOf id (meanwhile.map Registry.givenOf ++
            (d.outcomes srv server).map Registry.reportedOf)).foldl Knowledge.after
              (d.registry.knowledge id) := by
    intro ρ srv d server
    have hperform := @knowledge_perform ρ srv (.collect meanwhile) (d, server) id
    rw [Registry.knowledge_takeAll] at hperform
    rw [Detector.outcomes, List.map_map]
    exact hperform
  have happend : ∀ l m : List (String × Occasion),
      occasionsOf id (l ++ m) = occasionsOf id l ++ occasionsOf id m :=
    fun l m => List.filterMap_append
  rw [hall, hall, happend, happend, ← occasionsOf_without hid (d'.outcomes srv' server'),
    h.outcomes, occasionsOf_without hid, h.known id hid]

-- ========================================================= steady servers

/-- A server that answers each request for itself, whatever was asked
before, at one moment. -/
structure Steady (srv : Server σ) : Prop where
  reply : ∀ r s s', (srv.reply r s).1 = (srv.reply r s').1
  now : ∀ s s', srv.now s = srv.now s'

/-- With a steady server it does not matter what others have asked. -/
theorem Steady.run {α : Type} (hsrv : Steady srv) (dialogue : Dialogue α) (server server' : σ)
    (cache : Option Http.Session) (elapsed : Nat) :
    let a := dialogue.run srv { server, cache, elapsed }
    let b := dialogue.run srv { server := server', cache, elapsed }
    a.1 = b.1 ∧ a.2.elapsed = b.2.elapsed := by
  induction dialogue generalizing server server' cache elapsed with
  | done a => exact ⟨rfl, rfl⟩
  | exchange r next ih =>
    simp only [Dialogue.run]
    rw [hsrv.reply r server server']
    exact ih ..
  | pause millis next ih => exact ih ..
  | consult next ih =>
    simp only [Dialogue.run]
    rw [hsrv.now server server']
    exact ih ..
  | keep g next ih =>
    simp only [Dialogue.run]
    rw [hsrv.now server server']
    exact ih ..
  | forget next ih => exact ih ..

theorem Steady.outcome (hsrv : Steady srv) (budget : Nat) {v v' : Visit σ}
    (hmember : v'.member = v.member) (hrecord : v'.record = v.record) :
    v'.outcome srv budget = v.outcome srv budget := by
  obtain ⟨hresult, helapsed⟩ := hsrv.run (v.member.plugin.collect v.record) v'.server v.server
    v.member.cache 0
  unfold Visit.outcome Visit.dialogue
  rw [hmember, hrecord, hresult, helapsed]

/-- Who is visited is a plugin with a record. -/
theorem mem_visitsOf {budget : Nat} {g : Registry} {members : List Member} {server : σ}
    {v : Visit σ} (hv : v ∈ visitsOf srv budget g members server) :
    v.member ∈ members ∧ g.records.get? v.member.id = some v.record := by
  have hmem := List.mem_map_of_mem (f := fun v => (v.member, v.record)) hv
  rw [visitsOf_members, List.mem_filterMap] at hmem
  obtain ⟨m, hm, hpair⟩ := hmem
  obtain ⟨r, hr, heq⟩ := Option.map_eq_some_iff.mp hpair
  obtain ⟨rfl, rfl⟩ := Prod.mk.inj heq
  exact ⟨hm, hr⟩

/-- Where a server is steady, it is enough that the other plugins are the
same. -/
theorem differOnlyAt_of_steady {srv : Server σ} (hsrv : Steady srv)
    (hids : (d.members.map Member.id).Nodup) (hbudgets : d'.budgets = d.budgets)
    (hplugins : d'.identities = d.identities)
    (hothers : d'.members.filter (·.id ≠ p) = d.members.filter (·.id ≠ p))
    (hknown : ∀ id, id ≠ p → d'.registry.knowledge id = d.registry.knowledge id)
    (server server' : σ) : DifferOnlyAt p srv d server srv d' server' where
  plugins := hplugins
  known := hknown
  heard := by
    intro v hv v' hv' hid hp
    obtain ⟨hmem, hrecord⟩ := mem_visitsOf hv
    obtain ⟨hmem', hrecord'⟩ := mem_visitsOf hv'
    have hother : v'.member ∈ d'.members.filter (·.id ≠ p) :=
      List.mem_filter.mpr ⟨hmem', by simpa [hid] using hp⟩
    have hmember : v'.member = v.member := by
      rw [hothers] at hother
      exact List.inj_on_of_nodup_map hids (List.mem_filter.mp hother).1 hmem hid
    have hsame : d'.registry.records.get? v'.member.id = d.registry.records.get? v.member.id := by
      rw [hid]
      exact congrArg Knowledge.record (hknown v.member.id hp)
    rw [hrecord, hrecord'] at hsame
    rw [hbudgets]
    exact hsrv.outcome d.budgets.collect hmember (Option.some.inj hsame)

-- =========================================================== collections

/-- There is one entry for each plugin that is asked. -/
theorem pluginIds_entries_collect (srv : Server σ) (d : Detector) (meanwhile : List Setting)
    (server : σ) :
    (d.collect srv meanwhile server).detector.entries.map (·.pluginId) = d.recorded := by
  rw [← asked_eq_recorded, Detector.asked, ← d.outcomes_targets srv server, entries_collect,
    List.map_map, List.map_map]
  exact List.map_congr_left fun o _ => (shows_entryOf o.1 o.2).pluginId

/-- Each entry shows what came of its visit. -/
theorem forall₂_shows_collect (d : Detector) (meanwhile : List Setting) (server : σ) :
    List.Forall₂ (fun v e => Shows v.target (v.outcome srv d.budgets.collect) e)
      (d.visits srv server) (d.collect srv meanwhile server).detector.entries := by
  rw [entries_collect, outcomes_eq_visits, outcomesOf, List.map_map, List.forall₂_map_right_iff,
    List.forall₂_same]
  exact fun v _ => shows_entryOf v.target (v.outcome srv d.budgets.collect)

/-- Whatever comes of asking each service, a collection publishes one list,
which is the one it caches: it is sent to all subscribers, and each of them
whom it reaches has it once more in its queue than before, and nothing else.
The list has one entry for each plugin with a record, in the order of the
plugins, and the entry shows what came of asking that service with that
record. Where no more than one plugin is in another case, what is published
of the others is the same, and so are their records afterwards. -/
theorem collection_isolates_services (d : Detector) (srv : Server σ) (meanwhile : List Setting)
    (server : σ) (hids : (d.members.map Member.id).Nodup) :
    let after := (d.collect srv meanwhile server).detector
    (∀ order, after.feed = d.feed.sendBy order after.entries) ∧
    after.feed.registered = d.feed.registered ∧
    (d.feed.Numbered → ∀ k, after.feed.queued k
      = d.feed.queued k ++ if d.feed.reaches k then [after.entries] else []) ∧
    after.entries.map (·.pluginId)
      = (d.members.map Member.id).filter (fun id => (d.registry.records.get? id).isSome) ∧
    (after.entries.map (·.pluginId)).Nodup ∧
    (d.visits srv server).map (fun v => (v.member, v.record))
      = d.members.filterMap (fun m => (d.registry.records.get? m.id).map fun r => (m, r)) ∧
    List.Forall₂ (fun v e => Shows v.target (v.outcome srv d.budgets.collect) e)
      (d.visits srv server) after.entries ∧
    ∀ {τ : Type} (p : String) (srv' : Server τ) (d' : Detector) (server' : τ),
      DifferOnlyAt p srv d server srv' d' server' →
      let after' := (d'.collect srv' meanwhile server').detector
      after'.entries.filter (·.pluginId ≠ p) = after.entries.filter (·.pluginId ≠ p) ∧
      ∀ id, id ≠ p → after'.registry.records.get? id = after.registry.records.get? id := by
  intro after
  have hplugins := pluginIds_entries_collect srv d meanwhile server
  refine ⟨fun order => (d.feed.sendBy_eq order _).symm, rfl,
    fun hfeed k => Broadcaster.queued_send hfeed _ k, hplugins, ?_,
    visitsOf_members d.budgets.collect d.registry d.members server,
    forall₂_shows_collect d meanwhile server, fun p srv' d' server' hdiffer => ?_⟩
  · rw [hplugins]
    exact hids.filter _
  · exact ⟨hdiffer.entries meanwhile,
      fun id hid => congrArg Knowledge.record (hdiffer.knowledge meanwhile hid)⟩

-- ======================================================== three services

/-- A plugin that leads the same dialogue with every service. -/
def scripted (id : String) (script : Dialogue Outcome) : Member where
  plugin := { identity := ⟨id, id, ""⟩, detect := fun _ => .done none, collect := fun _ => script }

/-- Three services have been found. The first refuses the login, the second
is silent for longer than there is time, and the third is as given. One
subscriber waits for what is published. -/
def threeServices (third : Dialogue Outcome) (record : Record) : Detector where
  members := [
    scripted "refusing" (.done (.error (.authFailed "no"))),
    scripted "silent" (.pause 9000 (.done (.ok {}))),
    scripted "third" third]
  registry := {
    records :=
      (((∅ : Dict String Record).insert "refusing" {}).insert "silent" { version := "v5" }).insert
        "third" record }
  feed := (({} : Broadcaster (List Entry)).subscribe 1).2

theorem steady_unreachable : Steady Server.unreachable := ⟨fun _ _ _ => rfl, fun _ _ => rfl⟩

/-- Whatever the third service does and whatever its record is, it differs
in nothing else. -/
theorem differOnlyAt_threeServices (third third' : Dialogue Outcome) (record record' : Record) :
    DifferOnlyAt "third" .unreachable (threeServices third record) ()
      .unreachable (threeServices third' record') () := by
  have hids : ((threeServices third record).members.map Member.id).Nodup := by
    show ["refusing", "silent", "third"].Nodup
    decide
  have hbudgets : (threeServices third' record').budgets = (threeServices third record).budgets :=
    rfl
  have hplugins : (threeServices third' record').identities
      = (threeServices third record).identities := rfl
  have hothers : (threeServices third' record').members.filter (·.id ≠ "third")
      = (threeServices third record).members.filter (·.id ≠ "third") := rfl
  have hknown : ∀ id, id ≠ "third" →
      (threeServices third' record').registry.knowledge id
        = (threeServices third record).registry.knowledge id := by
    intro id hid
    simp [Registry.knowledge, threeServices, Registry.settingsOf, hid]
  exact differOnlyAt_of_steady steady_unreachable hids hbudgets hplugins hothers hknown () ()

/-- Whether the third service tells its version or fails, and whatever its
record is, the refusal and the timeout are published alike, and the list that
is published is all that waits for the subscriber. -/
theorem third_service_is_alone :
    let telling := threeServices (.done (.ok { version := some "v6" })) {}
    let failing := threeServices (.done (.error .authRequired)) { baseUrl := "http://h:80" }
    let after := (telling.collect .unreachable [] ()).detector
    let after' := (failing.collect .unreachable [] ()).detector
    ∃ a b c, after.entries = [a, b, c] ∧ after.feed.queued 0 = [[a, b, c]] ∧
      a.stats = [("authFailed", .bool true)] ∧ b.error = some "timed out after 8s" ∧
      b.stats = [] ∧ c.error = none ∧
      after'.entries.filter (·.pluginId ≠ "third") = [a, b] ∧
      after'.registry.records.get? "silent" = after.registry.records.get? "silent" := by
  intro telling failing after after'
  obtain ⟨-, -, hqueued, -, -, -, hshows, hothers⟩ :=
    collection_isolates_services telling .unreachable [] () (by decide)
  have hwaits : after.feed.queued 0 = [after.entries] :=
    hqueued (Broadcaster.numbered_subscribe Broadcaster.numbered_empty 1) 0
  obtain ⟨hentries, hrecords⟩ := hothers "third" .unreachable failing ()
    (differOnlyAt_threeServices ..)
  have hvisits : telling.visits .unreachable () = [
      ⟨scripted "refusing" (.done (.error (.authFailed "no"))), {}, ()⟩,
      ⟨scripted "silent" (.pause 9000 (.done (.ok {}))), { version := "v5" }, ()⟩,
      ⟨scripted "third" (.done (.ok { version := some "v6" })), {}, ()⟩] := by
    simp [Detector.visits, telling, threeServices, visitsOf, scripted, Member.id, Member.lead,
      Dialogue.runWithin]
  rw [hvisits] at hshows
  rw [hwaits]
  generalize after.entries = entries at hshows hentries ⊢
  obtain _ | ⟨ha, _ | ⟨hb, _ | ⟨hc, hend⟩⟩⟩ := hshows
  cases hend
  have hlate : (Fault.timeout 8000).message = "timed out after 8s" := by decide +kernel
  refine ⟨_, _, _, rfl, rfl, (ha.fault _ rfl).refused "no" rfl, ?_,
    (hb.fault _ rfl).other fun reason heq => ?_, (hc.report _ rfl).error, ?_,
    hrecords "silent" (by decide)⟩
  · rw [← hlate]
    exact (hb.fault _ rfl).error
  · cases heq
  · rw [hentries]
    simp [ha.pluginId, hb.pluginId, hc.pluginId, Visit.target, scripted]

end HostTelemetry.Service
