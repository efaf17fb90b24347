/-
What is published of a service: the report of its plugin with the plugin's
identity and the service's address, or an error with its text in place of
the report.

In JSON an absent error is left out. The address may be missing in texts
that were written without it.
-/
import HostTelemetry.Service.Fault
import HostTelemetry.Service.Report

namespace HostTelemetry.Service

open Json (orElse? required? asList? asOption? asString? slots?)

/-- The published state of a service. -/
structure Entry where
  pluginId : String
  name : String
  /-- The name of its icon. -/
  icon : String
  /-- How it does. -/
  status : Status
  summary : List Figure
  stats : List (String × Json)
  /-- Why it could not be asked, if so. -/
  error : Option String := none
  /-- The start of its addresses. -/
  url : String := ""
deriving Inhabited

/-- The fields published for a fault: only a refused login is marked. -/
def Fault.stats : Fault → List (String × Json)
  | .authFailed _ => [("authFailed", .bool true)]
  | _ => []

/-- The entry made of what a plugin reported. -/
def Entry.ofOutcome (pluginId name icon url : String) : Except Fault Report → Entry
  | .ok r =>
    { pluginId, name, icon, url, status := r.status, summary := r.summary, stats := r.stats }
  | .error e =>
    { pluginId, name, icon, url, status := .error, summary := [], stats := e.stats,
      error := some e.message }

-- ================================================================= JSON

/-- The entry in JSON. -/
def Entry.toJson (e : Entry) : Json :=
  .obj <|
    [("pluginId", .str e.pluginId), ("name", .str e.name), ("icon", .str e.icon),
      ("status", e.status.toJson), ("summary", .arr (e.summary.map Figure.toJson)),
      ("stats", .obj e.stats)]
      ++ (e.error.map fun s => ("error", .str s)).toList
      ++ [("url", .str e.url)]

/-- Reads an entry. -/
def Entry.ofJson? (j : Json) : Option Entry := do
  match ← slots? ["pluginId", "name", "icon", "status", "summary", "stats", "error", "url"] j with
  | [pluginId, name, icon, status, summary, stats, error, url] =>
    return {
      pluginId := ← required? asString? pluginId
      name := ← required? asString? name
      icon := ← required? asString? icon
      status := ← required? Status.ofJson? status
      summary := ← required? (asList? Figure.ofJson?) summary
      stats := ← required? Json.freeFields? stats
      error := ← orElse? none (asOption? asString?) error
      url := ← orElse? "" asString? url }
  | _ => none

/-- The depth that free-form fields may have within an entry. -/
def maxStatsDepth : Nat := Json.maxDepth - 2

/-- Reads an entry from a text, whose depth is limited. -/
def Entry.document? (j : Json) : Option Entry :=
  (Entry.ofJson? j).filter fun e => Json.depthFields e.stats ≤ maxStatsDepth

end HostTelemetry.Service
