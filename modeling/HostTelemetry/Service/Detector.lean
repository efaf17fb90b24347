/-
Detection and collection over a set of plugins. All plugins of a sweep
start at the same moment and have the same time, so none of them can use
up the time of another; who is not ready in time is stopped where it is.
A sweep takes as long as the plugin that takes longest.

Each plugin keeps its session from one sweep to the next. Settings can be
given while the plugins are at it: they are in the registry when the
results of the sweep get there.
-/
import HostTelemetry.Broadcast
import HostTelemetry.Service.Registry

namespace HostTelemetry.Service

open Discovery (Environment)
open Http (Dialogue Session)
open Http.Dialogue (Server)

-- =============================================================== plugins

/-- A plugin with its cached session. -/
structure Member where
  plugin : Plugin
  cache : Option Session := none
deriving Inhabited

/-- The name of a plugin for programs. -/
def Member.id (m : Member) : String := m.plugin.identity.id

/-- What came of a dialogue of one plugin. -/
structure Turn (σ α : Type) where
  /-- The result, if the time was enough. -/
  result : Option α
  member : Member
  server : σ
  /-- The milliseconds that it took. -/
  elapsed : Nat

/-- Lets a plugin lead a dialogue for at most `budget` milliseconds. -/
def Member.lead {σ α : Type} (m : Member) (srv : Server σ) (budget : Nat) (d : Dialogue α)
    (server : σ) : Turn σ α :=
  let (result, scene) := d.runWithin srv budget { server, cache := m.cache }
  { result, member := { m with cache := scene.cache }, server := scene.server,
    elapsed := scene.elapsed }

/-- What came of a sweep: for every plugin that took part, its label and
its result. -/
structure Sweep (σ κ α : Type) where
  results : List (κ × Option α)
  members : List Member
  server : σ
  /-- The milliseconds that the longest dialogue took. -/
  elapsed : Nat

/-- Lets every plugin that has a task lead its dialogue. -/
def sweep {σ κ α : Type} (srv : Server σ) (budget : Nat)
    (task : Member → Option (κ × Dialogue α)) : List Member → σ → Sweep σ κ α
  | [], server => { results := [], members := [], server, elapsed := 0 }
  | m :: rest, server =>
    match task m with
    | none =>
      let s := sweep srv budget task rest server
      { s with members := m :: s.members }
    | some (label, d) =>
      let t := m.lead srv budget d server
      let s := sweep srv budget task rest t.server
      { results := (label, t.result) :: s.results, members := t.member :: s.members,
        server := s.server, elapsed := max t.elapsed s.elapsed }

-- ============================================================== detector

/-- The milliseconds that sweeps have. -/
structure Budgets where
  /-- For the collection from one service, and for an action. -/
  collect : Nat := 8000
  /-- For a detection of all services. -/
  detect : Nat := 15000
deriving DecidableEq, Repr, Inhabited

/-- Plugins, what is known of their services, and who wants to hear it. -/
structure Detector where
  /-- The plugins, in order. -/
  members : List Member := []
  /-- The time that sweeps have. -/
  budgets : Budgets := {}
  registry : Registry := {}
  feed : Broadcaster (List Entry) := {}
deriving Inhabited

namespace Detector

/-- A detector that knows nothing yet. -/
def ofPlugins (plugins : List Plugin) (budgets : Budgets) : Detector where
  members := plugins.map fun p => { plugin := p }
  budgets := budgets

/-- Who the plugins are. -/
def identities (d : Detector) : List Identity := d.members.map (·.plugin.identity)

/-- What is known of the services found, in the order of the plugins. -/
def detected (d : Detector) : List Record := (d.registry.targets d.identities).map (·.record)

/-- The entries published last. -/
def entries (d : Detector) : List Entry := d.registry.entries

/-- Gives settings, one after the other. -/
def configureAll (d : Detector) (settings : List Setting) : Detector :=
  { d with registry := d.registry.configureAll settings }

/-- The finding that the result of a detection means. -/
def findingOf : Option (Option Record) → Finding
  | none => .late
  | some none => .absent
  | some (some r) => .found r

/-- A detector with the state of the server, and the milliseconds that
passed. -/
structure After (σ : Type) where
  detector : Detector
  server : σ
  /-- The milliseconds. -/
  elapsed : Nat

/-- Lets all plugins look for their services, while settings are given. -/
def detect {σ : Type} (d : Detector) (srv : Server σ) (e : Environment)
    (meanwhile : List Setting) (server : σ) : After σ :=
  let s := sweep srv d.budgets.detect (fun m => some (m.id, m.plugin.detect e)) d.members server
  let registry := (d.registry.configureAll meanwhile).settleAll <|
    s.results.map fun (id, r) => (id, findingOf r)
  { detector := { d with members := s.members, registry }
    server := s.server, elapsed := s.elapsed }

/-- The target of a plugin and the dialogue to lead with it. -/
def collectTask (g : Registry) (m : Member) : Option (Target × Dialogue Outcome) :=
  (g.records.get? m.id).map fun r => (⟨m.plugin.identity, r⟩, m.plugin.collect r)

/-- The plugins that a collection would ask now. -/
def asked (d : Detector) : List String :=
  (d.registry.targets d.identities).map (·.identity.id)

/-- Asks all services found, while settings are given, and publishes what
came of it. -/
def collect {σ : Type} (d : Detector) (srv : Server σ) (meanwhile : List Setting)
    (server : σ) : After σ :=
  let s := sweep srv d.budgets.collect (collectTask d.registry) d.members server
  let registry := (d.registry.configureAll meanwhile).collected <| s.results.map fun (t, r) =>
    (t, r.getD (.error (.timeout d.budgets.collect)))
  { detector := { d with members := s.members, registry, feed := d.feed.send registry.entries }
    server := s.server, elapsed := s.elapsed }

/-- Lets the first of some plugins with the name lead a dialogue. -/
def leadNamed {σ α : Type} (srv : Server σ) (budget : Nat) (id : String)
    (task : Plugin → Dialogue α) (server : σ) : List Member → Option (Option α × List Member × σ)
  | [] => none
  | m :: rest =>
    if m.id = id then
      let t := m.lead srv budget (task m.plugin) server
      some (t.result, t.member :: rest, t.server)
    else (leadNamed srv budget id task server rest).map fun (r, rest, server) =>
      (r, m :: rest, server)

/-- Lets a plugin perform an action on the service it has found. -/
def act {σ : Type} (d : Detector) (srv : Server σ) (plugin action : String) (params : Params)
    (server : σ) : Except Fault String × Detector × σ :=
  let performed := do
    let record ← d.registry.records.get? plugin
    leadNamed srv d.budgets.collect plugin (fun p => p.act record action params) server d.members
  match performed with
  | none => (.error (.notDetected plugin), d, server)
  | some (result, members, server) =>
    (result.getD (.error (.timeout d.budgets.collect)), { d with members }, server)

-- ================================================================= JSON

/-- What helps to find out why a service is not found: the plugins, the
environment, the addresses found and the entries published last. -/
def debugJson (d : Detector) (e : Environment) : Json :=
  .obj [
    ("plugins", .arr (d.members.map fun m => .str m.id)),
    ("containers", .arr (e.containers.map (·.toJson))),
    ("processes", .arr (e.processes.keys.map Json.str)),
    ("processPorts", .obj (e.ports.entries.map fun (name, ports) =>
      (name, .arr (ports.map fun (p : Nat) => .int p)))),
    ("detected", .obj (d.registry.records.entries.map fun (id, r) => (id, .str r.baseUrl))),
    ("stats", .arr (d.entries.map (·.toJson)))]

end Detector

end HostTelemetry.Service
