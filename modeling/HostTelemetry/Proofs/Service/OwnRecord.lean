/-
Runs of a detector: detections, collections, settings and actions in any
order, with plugins and a server that may do anything.

What happens to the plugins on the way is written down with the name of
each (`Call.events`); a plugin's history is what bears its name there. A
detection hears from every plugin, a collection only from those that have a
record. The registry at the end is the one that has
taken over all of it (`knowledge_perform`), so `History` applies to every
run.

Nothing here asks that names differ: plugins of one name would have one
history, and one record.
-/
import HostTelemetry.Proofs.Runs
import HostTelemetry.Proofs.Service.History
import HostTelemetry.Service.Detector

namespace HostTelemetry.Service

open Discovery (Environment)
open Http (Dialogue)
open Http.Dialogue (Server)

variable {σ : Type} {srv : Server σ}

-- ================================================================ sweeps

namespace Detector

/-- What a detection hears from the plugins. -/
def heard (d : Detector) (srv : Server σ) (e : Environment) (server : σ) :
    List (String × Option (Option Record)) :=
  (sweep srv d.budgets.detect (fun m => some (m.id, m.plugin.detect e)) d.members server).results

/-- What a collection hears from the plugins that it asks. -/
def reported (d : Detector) (srv : Server σ) (server : σ) : List (Target × Option Outcome) :=
  (sweep srv d.budgets.collect (collectTask d.registry) d.members server).results

end Detector

/-- Every result of a sweep is of a plugin that had a task. -/
theorem task_of_mem_results {κ α : Type} {budget : Nat}
    {task : Member → Option (κ × Dialogue α)} {members : List Member} {server : σ} {label : κ}
    {result : Option α} (h : (label, result) ∈ (sweep srv budget task members server).results) :
    ∃ m ∈ members, ∃ d, task m = some (label, d) := by
  induction members generalizing server with
  | nil => cases h
  | cons m rest ih =>
    unfold sweep at h
    cases ht : task m with
    | none =>
      rw [ht] at h
      obtain ⟨m', hm', hd⟩ := ih h
      exact ⟨m', List.mem_cons_of_mem m hm', hd⟩
    | some t =>
      rw [ht] at h
      rcases List.mem_cons.mp h with h | h
      · cases h
        exact ⟨m, List.mem_cons_self, t.2, ht⟩
      · obtain ⟨m', hm', hd⟩ := ih h
        exact ⟨m', List.mem_cons_of_mem m hm', hd⟩

/-- A sweep hears from every plugin that has a task once, in their order. -/
theorem results_labels {κ α : Type} (budget : Nat) (task : Member → Option (κ × Dialogue α))
    (members : List Member) (server : σ) :
    (sweep srv budget task members server).results.map (·.1)
      = members.filterMap fun m => (task m).map (·.1) := by
  induction members generalizing server with
  | nil => rfl
  | cons m rest ih =>
    unfold sweep
    cases ht : task m with
    | none =>
      rw [List.filterMap_cons_none (by rw [ht, Option.map_none])]
      exact ih server
    | some t =>
      rw [List.filterMap_cons_some (by rw [ht, Option.map_some])]
      exact congrArg _ (ih _)

/-- A collection hears from the plugins that have a record, with copies of
the records. -/
theorem Detector.reported_targets (d : Detector) (srv : Server σ) (server : σ) :
    (d.reported srv server).map (·.1) = d.registry.targets d.identities := by
  have htask : (fun m => (collectTask d.registry m).map (·.1))
      = (fun i : Identity => (d.registry.records.get? i.id).map fun r => (⟨i, r⟩ : Target))
        ∘ fun m : Member => m.plugin.identity :=
    funext fun m => Option.map_map ..
  unfold reported Registry.targets identities
  rw [results_labels, htask, List.filterMap_map]

/-- A collection asks only who has a record. -/
theorem Detector.record_of_mem_reported {d : Detector} {server : σ} {t : Target}
    {o : Option Outcome} (h : (t, o) ∈ d.reported srv server) :
    d.registry.records.get? t.identity.id ≠ none := by
  obtain ⟨m, -, dialogue, hd⟩ := task_of_mem_results h
  obtain ⟨r, hr, heq⟩ := Option.map_eq_some_iff.mp hd
  obtain ⟨rfl, -⟩ := Prod.mk.inj heq
  show d.registry.records.get? m.id ≠ none
  rw [hr]
  nofun

-- ================================================================== runs

/-- What is asked of a detector. Settings may be given while a sweep is
under way. -/
inductive Call where
  | detect (e : Environment) (meanwhile : List Setting)
  | collect (meanwhile : List Setting)
  | configure (s : Setting)
  | act (plugin action : String) (params : Params)

/-- Does what is asked. -/
def Call.perform (srv : Server σ) : Call → Detector × σ → Detector × σ
  | .detect e meanwhile, (d, server) =>
    let a := d.detect srv e meanwhile server
    (a.detector, a.server)
  | .collect meanwhile, (d, server) =>
    let a := d.collect srv meanwhile server
    (a.detector, a.server)
  | .configure s, (d, server) => (d.configureAll [s], server)
  | .act plugin action params, (d, server) => (d.act srv plugin action params server).2

/-- What happens to plugins on the way. -/
def Call.events (srv : Server σ) : Call → Detector × σ → List (String × Occasion)
  | .detect e meanwhile, (d, server) =>
    meanwhile.map Registry.givenOf ++
      (d.heard srv e server).map fun (id, r) => Registry.foundOf (id, Detector.findingOf r)
  | .collect meanwhile, (d, server) =>
    meanwhile.map Registry.givenOf ++
      (d.reported srv server).map fun (t, r) =>
        Registry.reportedOf (t, r.getD (.error (.timeout d.budgets.collect)))
  | .configure s, _ => [Registry.givenOf s]
  | .act .., _ => []

/-- Does what is asked, one after the other. -/
def run (srv : Server σ) : List Call → Detector × σ → Detector × σ := go (Call.perform srv)

/-- What happens to one plugin in a run. -/
def history (srv : Server σ) (id : String) : List Call → Detector × σ → List Occasion :=
  along (Call.perform srv) fun c s => occasionsOf id (c.events srv s)

theorem history_cons (id : String) (c : Call) (rest : List Call) (s : Detector × σ) :
    history srv id (c :: rest) s
      = occasionsOf id (c.events srv s) ++ history srv id rest (c.perform srv s) := rfl

theorem run_cons (c : Call) (rest : List Call) (s : Detector × σ) :
    run srv (c :: rest) s = run srv rest (c.perform srv s) := rfl

/-- The registry has taken over what happened. -/
theorem knowledge_perform (c : Call) (s : Detector × σ) (id : String) :
    (c.perform srv s).1.registry.knowledge id
      = (s.1.registry.takeAll (c.events srv s)).knowledge id := by
  obtain ⟨d, server⟩ := s
  cases c with
  | detect e meanwhile =>
    show ((d.registry.configureAll meanwhile).settleAll
      ((d.heard srv e server).map fun (id, r) => (id, Detector.findingOf r))).knowledge id = _
    rw [Registry.settleAll_eq, Registry.configureAll_eq, List.map_map, ← Registry.takeAll_append]
    rfl
  | collect meanwhile =>
    show ((d.registry.configureAll meanwhile).collected ((d.reported srv server).map fun (t, r) =>
      (t, r.getD (.error (.timeout d.budgets.collect))))).knowledge id = _
    rw [Registry.knowledge_collected, Registry.configureAll_eq, List.map_map,
      ← Registry.takeAll_append]
    rfl
  | configure s => rfl
  | act plugin action params =>
    have hkeep : (d.act srv plugin action params server).2.1.registry = d.registry := by
      unfold Detector.act
      dsimp only
      split
      · rfl
      · rfl
    show (d.act srv plugin action params server).2.1.registry.knowledge id = _
    rw [hkeep]
    rfl

/-- What is known of a plugin is a fold over its history. -/
theorem knowledge_run (calls : List Call) (s : Detector × σ) (id : String) :
    (run srv calls s).1.registry.knowledge id
      = (history srv id calls s).foldl Knowledge.after (s.1.registry.knowledge id) := by
  induction calls generalizing s with
  | nil => rfl
  | cons c rest ih =>
    rw [run_cons, history_cons, ih, List.foldl_append, knowledge_perform,
      Registry.knowledge_takeAll]

-- ====================================================== runs and histories

/-- Who is heard in a collection has a record, which stays as long as the
collection is taken over. -/
theorem record_of_mem_events {c : Call} {s : Detector × σ} {id : String} {o : Outcome}
    (h : (id, .collected o) ∈ c.events srv s) :
    s.1.registry.records.get? id ≠ none ∧ ∀ e ∈ c.events srv s, e.2.isAbsence = false := by
  obtain ⟨d, server⟩ := s
  cases c with
  | detect e meanwhile =>
    rcases List.mem_append.mp h with h | h
    · obtain ⟨setting, -, heq⟩ := List.mem_map.mp h
      cases heq
    · obtain ⟨f, -, heq⟩ := List.mem_map.mp h
      cases heq
  | collect meanwhile =>
    refine ⟨?_, fun e he => ?_⟩
    · rcases List.mem_append.mp h with h | h
      · obtain ⟨setting, -, heq⟩ := List.mem_map.mp h
        cases heq
      · obtain ⟨⟨t, r⟩, hmem, heq⟩ := List.mem_map.mp h
        cases heq
        exact Detector.record_of_mem_reported hmem
    · rcases List.mem_append.mp he with he | he
      · obtain ⟨setting, -, rfl⟩ := List.mem_map.mp he
        rfl
      · obtain ⟨t, -, rfl⟩ := List.mem_map.mp he
        rfl
  | configure setting =>
    obtain heq := List.mem_singleton.mp h
    cases heq
  | act plugin action params => cases h

/-- Only a service that is not found loses its record. -/
theorem Knowledge.record_after {k : Knowledge} {o : Occasion} (hkeep : o.isAbsence = false)
    (h : k.record ≠ none) : (k.after o).record ≠ none := by
  obtain ⟨r, hr⟩ := Option.ne_none_iff_exists'.mp h
  cases o with
  | configured key value => simp [after, hr]
  | detected f =>
    cases f with
    | found r => simp [after]
    | absent => cases hkeep
    | late => exact h
  | collected outcome =>
    cases hv : versionIn? outcome with
    | none => simp [after, hv, hr]
    | some version => simp [after, hv, hr]

/-- The invariant over many occasions: a collection needs a record at the
start that is not lost on the way. -/
theorem Leaves.foldl_after {h occasions : List Occasion} {k : Knowledge}
    (hasked : ∀ outcome, .collected outcome ∈ occasions →
      k.record ≠ none ∧ ∀ o ∈ occasions, o.isAbsence = false) (hk : Leaves h k) :
    Leaves (h ++ occasions) (occasions.foldl Knowledge.after k) := by
  induction occasions generalizing h k with
  | nil => simpa using hk
  | cons o rest ih =>
    have hfirst : Leaves (h ++ [o]) (k.after o) := by
      refine hk.after o fun outcome ho => ?_
      exact (hasked outcome (ho ▸ List.mem_cons_self)).1
    have hrest := ih (fun outcome hmem => ?_) hfirst
    · rw [List.append_assoc] at hrest
      exact hrest
    · obtain ⟨hrecord, hkeep⟩ := hasked outcome (List.mem_cons_of_mem o hmem)
      refine ⟨Knowledge.record_after (hkeep o List.mem_cons_self) hrecord, fun o' ho' => ?_⟩
      exact hkeep o' (List.mem_cons_of_mem o ho')

/-- The invariant over a run. -/
theorem Leaves.run {h : List Occasion} {calls : List Call} {s : Detector × σ} {id : String}
    (hk : Leaves h (s.1.registry.knowledge id)) :
    Leaves (h ++ history srv id calls s) ((run srv calls s).1.registry.knowledge id) := by
  induction calls generalizing h s with
  | nil =>
    show Leaves (h ++ []) (s.1.registry.knowledge id)
    rw [List.append_nil]
    exact hk
  | cons c rest ih =>
    have hfirst : Leaves (h ++ occasionsOf id (c.events srv s))
        ((c.perform srv s).1.registry.knowledge id) := by
      rw [knowledge_perform, Registry.knowledge_takeAll]
      refine hk.foldl_after fun outcome hmem => ?_
      obtain ⟨hrecord, hkeep⟩ := record_of_mem_events (mem_occasionsOf.mp hmem)
      exact ⟨hrecord, fun o ho => hkeep (id, o) (mem_occasionsOf.mp ho)⟩
    have hrest := ih hfirst
    rw [List.append_assoc, ← history_cons, ← run_cons] at hrest
    exact hrest

/-- The record of a plugin after any run is the one that the plugin's own
history leaves: whoever else is there, whatever else happened and
whichever deadlines were missed. -/
theorem record_is_of_own_history (srv : Server σ) (plugins : List Plugin) (budgets : Budgets)
    (calls : List Call) (server : σ) (id : String) :
    let start := (Detector.ofPlugins plugins budgets, server)
    let h := history srv id calls start
    let record := (run srv calls start).1.registry.records.get? id
    (record = none ↔ lastConclusion? h = none ∨ lastConclusion? h = some .absent) ∧
    (∀ r, record = some r → Describes h r) ∧
    ∀ {τ : Type} (other : Server τ) (plugins' : List Plugin) (budgets' : Budgets)
      (calls' : List Call) (server' : τ),
      let start' := (Detector.ofPlugins plugins' budgets', server')
      (history other id calls' start').filter (!·.isMiss) = h.filter (!·.isMiss) →
        (run other calls' start').1.registry.records.get? id = record := by
  intro start h record
  have hleaves : Leaves h ((run srv calls start).1.registry.knowledge id) := by
    have hrun : Leaves ([] ++ history srv id calls start)
        ((run srv calls start).1.registry.knowledge id) := Leaves.run leaves_nil
    rwa [List.nil_append] at hrun
  refine ⟨⟨fun hnone => (hleaves.absent hnone).conclusion, fun hlast => ?_⟩,
    hleaves.present, fun other plugins' budgets' calls' server' hsame => ?_⟩
  · cases hr : record with
    | none => rfl
    | some r =>
      obtain ⟨last, hfound, -⟩ := (hleaves.present r hr).service
      rw [hfound] at hlast
      rcases hlast with hlast | hlast
      · cases hlast
      · cases hlast
  · rw [← Registry.knowledge_record, knowledge_run, ← Knowledge.foldl_after_filter, hsame,
      Knowledge.foldl_after_filter]
    exact congrArg Knowledge.record (knowledge_run calls start id).symm

end HostTelemetry.Service
