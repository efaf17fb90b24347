/-
Settings win over findings in every state that sweeps can reach, however
they overlap.

# Sections

What a detector knows is changed in sections, each of them at once. A
setting is one section. A detection has one, at its end, when it takes over
what was found. A collection has two: it begins with copies of the records
that are there, and ends when it takes over what came of asking the
services of its copies. In between anything may happen: other sweeps begin
and end, settings are given, and the copies get out of date. So a run is a
list of sections in any order, and what plugins find and report is open.

A detector that does one sweep at a time, with settings given meanwhile, is
a special case (`registry_run`).

# The invariant

`Heeds` says of one plugin that its record has each setting among its
notes. Every occasion restores it on its own account: a setting is written
to both places, a record that is found gets all settings last, and a report
changes nothing but the version. That the settings themselves are the ones
given last is `settings_foldl_after`, whatever becomes of the record.
-/
import HostTelemetry.Proofs.Service.OwnRecord

namespace HostTelemetry.Service

open Discovery (Environment)
open Http.Dialogue (Server)

variable {σ : Type} {srv : Server σ}

-- ============================================================== sections

/-- What is known, and the copies with which collections are under way. -/
structure Shared where
  registry : Registry := {}
  underway : List (List Target) := []

/-- What is done to it at once. -/
inductive Section where
  | give (s : Setting)
  /-- A detection ends. -/
  | settle (findings : List (String × Finding))
  /-- A collection begins. -/
  | depart (plugins : List Identity)
  /-- One of the collections under way ends. -/
  | arrive (i : Nat) (outcomes : List Outcome)

/-- Does a section. -/
def Section.perform : Section → Shared → Shared
  | .give s, x => { x with registry := x.registry.configure s }
  | .settle findings, x => { x with registry := x.registry.settleAll findings }
  | .depart plugins, x => { x with underway := x.underway ++ [x.registry.targets plugins] }
  | .arrive i outcomes, x =>
    match x.underway[i]? with
    | some targets =>
      { registry := x.registry.collected (targets.zip outcomes), underway := x.underway.eraseIdx i }
    | none => x

/-- Does sections, one after the other. -/
def performAll : List Section → Shared → Shared := go Section.perform

/-- The value that a section gives to a key of a plugin. -/
def Section.value? (plugin key : String) : Section → Option String
  | .give s => if s.plugin = plugin ∧ s.key = key then some s.value else none
  | .settle _ | .depart _ | .arrive .. => none

/-- The value that was given to a key of a plugin last. -/
def latest? (sections : List Section) (plugin key : String) : Option String :=
  sections.reverse.findSome? (Section.value? plugin key)

/-- What a section makes happen to plugins. -/
def Section.events : Section → Shared → List (String × Occasion)
  | .give s, _ => [Registry.givenOf s]
  | .settle findings, _ => findings.map Registry.foundOf
  | .depart _, _ => []
  | .arrive i outcomes, x => ((x.underway[i]?.getD []).zip outcomes).map Registry.reportedOf

/-- A section is what it makes happen to each plugin. -/
theorem Section.knowledge_perform (c : Section) (x : Shared) (id : String) :
    (c.perform x).registry.knowledge id
      = (occasionsOf id (c.events x)).foldl Knowledge.after (x.registry.knowledge id) := by
  rw [← Registry.knowledge_takeAll]
  cases c with
  | give s => rfl
  | settle findings =>
    show (x.registry.settleAll findings).knowledge id = _
    rw [Registry.settleAll_eq]
    rfl
  | depart plugins => rfl
  | arrive i outcomes =>
    cases hi : x.underway[i]? with
    | none => simp [perform, events, hi, Registry.takeAll]
    | some targets =>
      simp only [perform, events, hi, Option.getD_some]
      exact Registry.knowledge_collected x.registry _ id

-- ============================================== the settings given last

/-- Of all that happens to a plugin only settings change its settings. -/
theorem Knowledge.settings_after (k : Knowledge) (o : Occasion) (key : String) :
    (k.after o).settings.get? key = (o.setting? key).or (k.settings.get? key) := by
  cases o with
  | configured key' value =>
    by_cases h : key = key'
    · simp [after, Occasion.setting?, h]
    · simp [after, Occasion.setting?, h, Ne.symm h]
  | detected f =>
    cases f with
    | found r => rfl
    | absent => rfl
    | late => rfl
  | collected o => rfl

theorem Knowledge.settings_foldl_after (h : List Occasion) (k : Knowledge) (key : String) :
    (h.foldl after k).settings.get? key = (lastSetting? h key).or (k.settings.get? key) := by
  induction h generalizing k with
  | nil => rfl
  | cons o rest ih =>
    rw [List.foldl_cons, ih, settings_after, lastSetting?, lastSetting?, List.reverse_cons,
      List.findSome?_append, Option.or_assoc]
    simp

/-- What a section gives to a plugin is the setting among its events. -/
theorem Section.lastSetting?_events (c : Section) (x : Shared) (id key : String) :
    lastSetting? (occasionsOf id (c.events x)) key = c.value? id key := by
  cases c with
  | give s =>
    by_cases hid : s.plugin = id
    · by_cases hkey : s.key = key
      · simp [events, value?, Registry.givenOf, occasionsOf, lastSetting?, Occasion.setting?, hid,
          hkey]
      · simp [events, value?, Registry.givenOf, occasionsOf, lastSetting?, Occasion.setting?, hid,
          hkey]
    · simp [events, value?, Registry.givenOf, occasionsOf, lastSetting?, hid]
  | settle findings =>
    refine List.findSome?_eq_none_iff.mpr fun o ho => ?_
    obtain ⟨f, -, hf⟩ := List.mem_map.mp (mem_occasionsOf.mp (List.mem_reverse.mp ho))
    cases hf
    rfl
  | depart plugins => rfl
  | arrive i outcomes =>
    refine List.findSome?_eq_none_iff.mpr fun o ho => ?_
    obtain ⟨t, -, ht⟩ := List.mem_map.mp (mem_occasionsOf.mp (List.mem_reverse.mp ho))
    cases ht
    rfl

/-- Settings are kept, whatever sweeps do. -/
theorem settingsOf_performAll (sections : List Section) (x : Shared) (plugin key : String) :
    ((performAll sections x).registry.settingsOf plugin).get? key
      = (latest? sections plugin key).or ((x.registry.settingsOf plugin).get? key) := by
  induction sections generalizing x with
  | nil => rfl
  | cons c rest ih =>
    have hstep : ((c.perform x).registry.settingsOf plugin).get? key
        = (c.value? plugin key).or ((x.registry.settingsOf plugin).get? key) := by
      show ((c.perform x).registry.knowledge plugin).settings.get? key = _
      rw [c.knowledge_perform, Knowledge.settings_foldl_after, c.lastSetting?_events]
      rfl
    show ((performAll rest (c.perform x)).registry.settingsOf plugin).get? key = _
    rw [ih, hstep, latest?, latest?, List.reverse_cons, List.findSome?_append, Option.or_assoc]
    simp

-- ========================================================= the invariant

/-- The record, if there is one, has each setting among its notes. -/
def Knowledge.Heeds (k : Knowledge) : Prop :=
  ∀ r, k.record = some r → ∀ key value, k.settings.get? key = some value →
    r.notes.get? key = some value

/-- A setting is written to the settings and to the record. -/
theorem Knowledge.Heeds.configured {k : Knowledge} (hk : k.Heeds) (key value : String) :
    (k.after (.configured key value)).Heeds := by
  intro r hr key' value' hset
  obtain ⟨r₀, hr₀, rfl⟩ := Option.map_eq_some_iff.mp hr
  simp only [after, Dict.get?_insert] at hset ⊢
  by_cases h : key' = key
  · rw [if_pos h] at hset ⊢
    exact hset
  · rw [if_neg h] at hset ⊢
    exact hk r₀ hr₀ key' value' hset

/-- A record that is found gets all settings, after its own notes and after
those of the record before it. -/
theorem Knowledge.heeds_found (k : Knowledge) (found : Record) :
    (k.after (.detected (.found found))).Heeds := by
  intro r hr key value hset
  obtain rfl := Option.some.inj hr
  simp only [recordFor, Record.withSettings, Dict.get?_union]
  rw [show k.settings.get? key = some value from hset, Option.some_or]

/-- A report can change the version of a record, and no more. -/
theorem Knowledge.Heeds.collected {k : Knowledge} (hk : k.Heeds) (o : Outcome) :
    (k.after (.collected o)).Heeds := by
  intro r hr key value hset
  have hold : ∃ r₀, k.record = some r₀ ∧ r.notes = r₀.notes := by
    unfold after at hr
    dsimp only at hr
    split at hr
    · obtain ⟨r₀, hr₀, rfl⟩ := Option.map_eq_some_iff.mp hr
      refine ⟨r₀, hr₀, ?_⟩
      unfold Record.learn
      split
      · rfl
      · rfl
    · exact ⟨r, hr, rfl⟩
  obtain ⟨r₀, hr₀, hnotes⟩ := hold
  rw [hnotes]
  exact hk r₀ hr₀ key value hset

/-- One occasion more. -/
theorem Knowledge.Heeds.after {k : Knowledge} (hk : k.Heeds) (o : Occasion) :
    (k.after o).Heeds := by
  cases o with
  | configured key value => exact hk.configured key value
  | detected f =>
    cases f with
    | found r => exact k.heeds_found r
    | absent => exact fun r hr => nomatch hr
    | late => exact hk
  | collected o => exact hk.collected o

theorem Knowledge.Heeds.foldl_after {k : Knowledge} (hk : k.Heeds) (h : List Occasion) :
    (h.foldl Knowledge.after k).Heeds := by
  induction h generalizing k with
  | nil => exact hk
  | cons o rest ih => exact ih (hk.after o)

/-- The invariant over a run. -/
theorem heeds_performAll (sections : List Section) (x : Shared) (id : String)
    (hx : (x.registry.knowledge id).Heeds) :
    ((performAll sections x).registry.knowledge id).Heeds := by
  induction sections generalizing x with
  | nil => exact hx
  | cons c rest ih =>
    refine ih (c.perform x) ?_
    rw [c.knowledge_perform]
    exact hx.foldl_after _

-- ============================================================ precedence

/-- Whatever sections overlap and whatever plugins find and report: the
settings are those given last, and each record has them. -/
theorem settings_prevail (sections : List Section) (plugin key : String) :
    let g := (performAll sections {}).registry
    (g.settingsOf plugin).get? key = latest? sections plugin key ∧
    ∀ r value, g.records.get? plugin = some r → latest? sections plugin key = some value →
      r.notes.get? key = some value := by
  intro g
  have hgiven : (g.settingsOf plugin).get? key = latest? sections plugin key := by
    have hall := settingsOf_performAll sections {} plugin key
    rw [show ((({} : Shared).registry.settingsOf plugin).get? key) = none from rfl,
      Option.or_none] at hall
    exact hall
  refine ⟨hgiven, fun r value hr hvalue => ?_⟩
  have hheeds : (g.knowledge plugin).Heeds :=
    heeds_performAll sections {} plugin fun r hr => nomatch hr
  exact hheeds r hr key value (hgiven.trans hvalue)

/-- A password is given before there is a record, again while a collection
is under way, and is reported by each detection with another value; the
service disappears and comes back elsewhere. -/
theorem password_prevails :
    let sections : List Section := [
      .give ⟨"pihole", "password", "a"⟩,
      .settle [("pihole",
        .found { baseUrl := "http://h:80", notes := .ofList [("password", "x")] })],
      .depart [⟨"pihole", "Pi-hole", ""⟩],
      .give ⟨"pihole", "password", "b"⟩,
      .settle [("pihole", .absent)],
      .settle [("pihole",
        .found { baseUrl := "http://h:81", notes := .ofList [("password", "y")] })],
      .arrive 0 [.ok { status := .running, summary := [], stats := [], version := some "v6" }]]
    ∃ r, (performAll sections {}).registry.records.get? "pihole" = some r ∧
      latest? sections "pihole" "password" = some "b" ∧ r.notes.get? "password" = some "b" := by
  intro sections
  have hr : (performAll sections {}).registry.records.get? "pihole" = some
      { baseUrl := "http://h:81", version := "v6", notes := .ofList [("password", "b")] } := by
    decide +kernel
  have hlast : latest? sections "pihole" "password" = some "b" := by decide
  exact ⟨_, hr, hlast, (settings_prevail sections "pihole" "password").2 _ "b" hr hlast⟩

-- =================================================== one sweep at a time

namespace Detector

/-- The findings that a detection takes over. -/
def findings (d : Detector) (srv : Server σ) (e : Environment) (server : σ) :
    List (String × Finding) :=
  (d.heard srv e server).map fun (id, r) => (id, findingOf r)

/-- The outcomes that a collection takes over. -/
def outcomes (d : Detector) (srv : Server σ) (server : σ) : List (Target × Outcome) :=
  (d.reported srv server).map fun (t, r) => (t, r.getD (.error (.timeout d.budgets.collect)))

theorem outcomes_targets (d : Detector) (srv : Server σ) (server : σ) :
    (d.outcomes srv server).map (·.1) = d.registry.targets d.identities := by
  rw [← d.reported_targets srv server, outcomes, List.map_map]
  rfl

end Detector

/-- What is asked of a detector that does one thing at a time, in sections. -/
def Call.sections (srv : Server σ) : Call → Detector × σ → List Section
  | .detect e meanwhile, (d, server) =>
    meanwhile.map .give ++ [.settle (d.findings srv e server)]
  | .collect meanwhile, (d, server) =>
    .depart d.identities :: meanwhile.map .give ++
      [.arrive 0 ((d.outcomes srv server).map (·.2))]
  | .configure s, _ => [.give s]
  | .act .., _ => []

theorem performAll_give (settings : List Setting) (x : Shared) :
    performAll (settings.map .give) x
      = { x with registry := x.registry.configureAll settings } := by
  induction settings generalizing x with
  | nil => rfl
  | cons s rest ih => exact ih _

/-- One call does its sections. -/
theorem performAll_sections (c : Call) (s : Detector × σ) :
    performAll (c.sections srv s) { registry := s.1.registry }
      = { registry := (c.perform srv s).1.registry } := by
  obtain ⟨d, server⟩ := s
  cases c with
  | detect e meanwhile =>
    show performAll (meanwhile.map .give ++ [.settle (d.findings srv e server)]) _ = _
    rw [performAll, go_append, ← performAll, performAll_give]
    rfl
  | collect meanwhile =>
    have hzip : (d.registry.targets d.identities).zip ((d.outcomes srv server).map (·.2))
        = d.outcomes srv server := by
      rw [← d.outcomes_targets srv server]
      exact (List.zip_of_prod rfl rfl).symm
    show performAll (meanwhile.map .give ++ [.arrive 0 ((d.outcomes srv server).map (·.2))])
      { registry := d.registry, underway := [d.registry.targets d.identities] } = _
    rw [performAll, go_append, ← performAll, performAll_give]
    show ({ registry := Registry.collected _ (List.zip _ _) } : Shared) = _
    rw [hzip]
    rfl
  | configure setting => rfl
  | act plugin action params =>
    show ({ registry := d.registry } : Shared)
      = { registry := (d.act srv plugin action params server).2.1.registry }
    unfold Detector.act
    dsimp only
    split
    · rfl
    · rfl

/-- A run of calls is a run of sections, so in it too settings prevail. -/
theorem registry_run (calls : List Call) (s : Detector × σ) :
    performAll (along (Call.perform srv) (Call.sections srv) calls s) { registry := s.1.registry }
      = { registry := (run srv calls s).1.registry } := by
  induction calls generalizing s with
  | nil => rfl
  | cons c rest ih =>
    show performAll (c.sections srv s ++ _) _ = _
    rw [performAll, go_append, ← performAll, performAll_sections]
    exact ih _

end HostTelemetry.Service
