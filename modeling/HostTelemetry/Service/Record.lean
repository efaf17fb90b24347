/-
A service that was found on a host: which plugin found it, where it
answers, and what is known about it from one detection to the next.
-/
import HostTelemetry.Json.Decode

namespace HostTelemetry.Service

open Json (required? asDict? asString? slots?)

/-- A service that was found. -/
structure Record where
  /-- The plugin that found it. -/
  pluginId : String := ""
  name : String := ""
  /-- The name of its icon. -/
  icon : String := ""
  /-- The start of all its addresses. -/
  baseUrl : String := ""
  /-- The generation of its protocol; empty if not known. -/
  version : String := ""
  /-- Settings and findings by name. -/
  notes : Dict String String := ∅
deriving DecidableEq, Inhabited

/-- A setting or finding; an empty one counts as absent. -/
def Record.note? (r : Record) (key : String) : Option String :=
  (r.notes.get? key).filter (· ≠ "")

-- ================================================================= JSON

/-- The record in JSON. -/
def Record.toJson (r : Record) : Json :=
  .obj [("pluginId", .str r.pluginId), ("name", .str r.name), ("icon", .str r.icon),
    ("baseUrl", .str r.baseUrl), ("version", .str r.version),
    ("meta", .obj (r.notes.entries.map fun (k, v) => (k, .str v)))]

/-- Reads a record. -/
def Record.ofJson? (j : Json) : Option Record := do
  match ← slots? ["pluginId", "name", "icon", "baseUrl", "version", "meta"] j with
  | [pluginId, name, icon, baseUrl, version, notes] =>
    return {
      pluginId := ← required? asString? pluginId
      name := ← required? asString? name
      icon := ← required? asString? icon
      baseUrl := ← required? asString? baseUrl
      version := ← required? asString? version
      notes := ← required? (asDict? asString?) notes }
  | _ => none

end HostTelemetry.Service
