/-
The plugin for Traefik: finds a proxy by its container, by its process, or
by trying the ports of its interface, and reports its overview together
with the number of its entry points.
-/
import HostTelemetry.Http.Fetch
import HostTelemetry.Service.Plugin
import HostTelemetry.Traefik.Overview

namespace HostTelemetry.Traefik

open Discovery (Candidate Environment)
open Http (Dialogue Sighting)
open Service (Fault Identity Plugin Record Report)

/-- Who the plugin is. -/
def identity : Identity := ⟨"traefik", "Traefik", "arrow.triangle.branch"⟩

/-- The path of the overview. -/
def overviewPath : String := "/api/overview"

/-- The path of the list of entry points. -/
def entryPointsPath : String := "/api/entrypoints"

/-- The ports that are tried for a container besides its own. -/
def containerPorts : List Nat := [8080, 8443]

/-- The ports that are tried for a process. -/
def processPorts : List Nat := [8080, 8443, 9090]

/-- The ports that are tried without any hint. -/
def blindPorts : List Nat := [8080, 8443]

/-- Whether an answer may be an overview. -/
def looksLikeOverview (s : Sighting) : Bool := Text.occursIn "\"http\"".toList s.body

/-- Tries ports, and then something else. -/
def probeOr (ports : List Nat) (otherwise : Dialogue (Option Record)) :
    Dialogue (Option Record) := do
  match ← Http.probe ports overviewPath looksLikeOverview with
  | some url => return some (identity.recordAt url)
  | none => otherwise

/-- The container that may be a proxy. -/
def container? (e : Environment) : Option Candidate :=
  (e.findImage? "traefik").filter (·.isRunning)

/-- Looks for a proxy by its container, its process, and its ports. -/
def detect (e : Environment) : Dialogue (Option Record) :=
  let blind := probeOr blindPorts (.done none)
  let byProcess := if e.hasProcess "traefik" then probeOr processPorts blind else blind
  match container? e with
  | some c => probeOr (c.hostPorts ++ containerPorts) byProcess
  | none => byProcess

/-- The entry points that an answer lists. -/
def entryPoints? (j : Json) : Option (List Json) := j.document?.bind Json.arr?

/-- Asks a proxy for its overview, and for its entry points, of which it
has none if it does not tell. -/
def collect (r : Record) : Dialogue (Except Fault Report) := do
  match ← Http.getJson Overview.ofJson? (r.baseUrl ++ overviewPath) with
  | .error e => return .error e
  | .ok overview =>
    let listed := match ← Http.getJson entryPoints? (r.baseUrl ++ entryPointsPath) with
      | .ok points => Int64.ofNat points.length
      | .error _ => 0
    return .ok (overview.report listed)

/-- The plugin. -/
def plugin : Plugin where
  identity := identity
  detect := detect
  collect := collect

end HostTelemetry.Traefik
