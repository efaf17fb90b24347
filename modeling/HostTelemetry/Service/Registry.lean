/-
What is known of services between sweeps: the record of each plugin that
has found its service, the settings given for each plugin, and the entries
published last.

The registry changes in three ways, each at once: a setting is given, the
findings of a detection are taken over, the outcomes of a collection are
taken over. What plugins do in between, they do on a copy.

A setting always wins over what a detection finds. A detection that came
to no end changes nothing; one that found nothing removes the record, but
not the settings.
-/
import HostTelemetry.Service.Entry
import HostTelemetry.Service.Plugin

namespace HostTelemetry.Service

/-- What a detection found of a plugin's service. -/
inductive Finding where
  | found (r : Record)
  | absent
  /-- The time was over before that was known. -/
  | late
deriving DecidableEq, Inhabited

/-- A plugin and its record, copied for a collection. -/
structure Target where
  identity : Identity
  record : Record
deriving DecidableEq, Inhabited

/-- A setting given for a plugin. -/
structure Setting where
  /-- The name of the plugin for programs. -/
  plugin : String
  key : String
  value : String
deriving DecidableEq, Inhabited

/-- What came of asking a service. -/
abbrev Outcome := Except Fault Report

/-- Records, settings and entries. -/
structure Registry where
  /-- The records, by plugin. -/
  records : Dict String Record := ∅
  /-- The settings, by plugin and key. -/
  settings : Dict String (Dict String String) := ∅
  /-- The entries published last. -/
  entries : List Entry := []
deriving Inhabited

-- ============================================================== records

/-- A record with the notes of an older one, where it has none of its own,
and with its version, where it does not know its own. -/
def Record.continuing (r old : Record) : Record :=
  { r with
    notes := old.notes.union r.notes
    version := if r.version = "" then old.version else r.version }

/-- A record with settings among its notes. -/
def Record.withSettings (r : Record) (settings : Dict String String) : Record :=
  { r with notes := r.notes.union settings }

/-- A record with a version, if it does not know its own. -/
def Record.learn (r : Record) (version : String) : Record :=
  if r.version = "" then { r with version } else r

namespace Registry

/-- The settings of a plugin. -/
def settingsOf (g : Registry) (plugin : String) : Dict String String :=
  (g.settings.get? plugin).getD ∅

-- ============================================================= settings

/-- Gives a plugin a setting, which its record takes over at once. -/
def configure (g : Registry) (s : Setting) : Registry :=
  { g with
    settings := g.settings.insert s.plugin ((g.settingsOf s.plugin).insert s.key s.value)
    records := match g.records.get? s.plugin with
      | some r => g.records.insert s.plugin { r with notes := r.notes.insert s.key s.value }
      | none => g.records }

/-- Gives settings, one after the other. -/
def configureAll (g : Registry) (settings : List Setting) : Registry :=
  settings.foldl configure g

-- ============================================================ detection

/-- The record that a found service gets. -/
def recordFor (g : Registry) (plugin : String) (r : Record) : Record :=
  let r := match g.records.get? plugin with
    | some old => r.continuing old
    | none => r
  r.withSettings (g.settingsOf plugin)

/-- Takes over what was found of one plugin's service. -/
def settle (g : Registry) (plugin : String) : Finding → Registry
  | .found r => { g with records := g.records.insert plugin (g.recordFor plugin r) }
  | .absent => { g with records := g.records.erase plugin }
  | .late => g

/-- Takes over the findings of a detection. -/
def settleAll (g : Registry) (findings : List (String × Finding)) : Registry :=
  findings.foldl (fun g (plugin, finding) => g.settle plugin finding) g

-- =========================================================== collection

/-- The plugins that have a record, with copies of the records. -/
def targets (g : Registry) (plugins : List Identity) : List Target :=
  plugins.filterMap fun i => (g.records.get? i.id).map fun r => ⟨i, r⟩

/-- Takes over the version that a report tells, if it tells one and the
record is still there. -/
def learn (g : Registry) (plugin : String) : Outcome → Registry
  | .ok { version := some version, .. } =>
    match g.records.get? plugin with
    | some r => { g with records := g.records.insert plugin (r.learn version) }
    | none => g
  | _ => g

/-- The entry for a target and what came of asking it. -/
def entryOf (t : Target) (o : Outcome) : Entry :=
  .ofOutcome t.identity.id t.identity.name t.identity.icon t.record.baseUrl o

/-- Takes over the outcomes of a collection: their entries replace those
from before. -/
def collected (g : Registry) (outcomes : List (Target × Outcome)) : Registry :=
  { outcomes.foldl (fun g (t, o) => g.learn t.identity.id o) g with
    entries := outcomes.map fun (t, o) => entryOf t o }

end Registry

end HostTelemetry.Service
