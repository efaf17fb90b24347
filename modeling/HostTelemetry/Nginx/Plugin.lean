/-
The plugin for nginx: finds a server by the container or the process that
runs it and by one of the paths under which status pages are common, and
reports the counters of that page.
-/
import HostTelemetry.Http.Fetch
import HostTelemetry.Nginx.StubStatus
import HostTelemetry.Service.Plugin

namespace HostTelemetry.Nginx

open Discovery (Candidate Environment)
open Http (Dialogue Sighting)
open Service (Fault Identity Plugin Record Report)

/-- Who the plugin is. -/
def identity : Identity := ⟨"nginx", "Nginx", "globe"⟩

/-- The path that is asked if none is known. -/
def defaultPath : String := "/nginx_status"

/-- The paths under which status pages are common, in order. -/
def statusPaths : List String := [defaultPath, "/stub_status", "/status", "/basic_status"]

/-- The ports that are tried for a container besides its own. -/
def containerPorts : List Nat := [80, 8080]

/-- The ports that are tried for a process besides its own. -/
def commonPorts : List Nat := [80, 8080, 443, 8443]

/-- The note of the path that answered. -/
def pathNote : String := "statusPath"

/-- Whether a page is a status page. -/
def looksLikeStatus (s : Sighting) : Bool :=
  Text.occursIn "Active connections".toList s.body

/-- Tries one path after the other. -/
def probePaths (ports : List Nat) : List String → Dialogue (Option Record)
  | [] => .done none
  | path :: rest => do
    match ← Http.probe ports path looksLikeStatus with
    | some url =>
      let r := identity.recordAt url
      return some { r with notes := r.notes.insert pathNote path }
    | none => probePaths ports rest

/-- The container that may be a server: the first one of an image of that
name, if it runs and is no proxy that only carries the name. -/
def container? (e : Environment) : Option Candidate :=
  (e.findImage? "nginx").filter fun c =>
    c.isRunning && !Text.occursIn "traefik".toList (Text.lowercase c.image.toList)

/-- Looks for a server by its process. -/
def detectProcess (e : Environment) : Dialogue (Option Record) :=
  if e.hasProcess "nginx" then probePaths (e.portsOf "nginx" ++ commonPorts) statusPaths
  else .done none

/-- Looks for a server by its container, then by its process. -/
def detect (e : Environment) : Dialogue (Option Record) :=
  match container? e with
  | some c => do
    match ← probePaths (c.hostPorts ++ containerPorts) statusPaths with
    | some r => return some r
    | none => detectProcess e
  | none => detectProcess e

/-- The report that a status page gives. -/
def reportOfPage (url : String) (body : Bytes) : Except Fault Report :=
  match StubStatus.ofText? (Text.decodeLossy body) with
  | some s => .ok s.report
  | none => .error (.malformed url "missing Active connections line")

/-- Asks a server for its status page. -/
def collect (r : Record) : Dialogue (Except Fault Report) := do
  let url := r.baseUrl ++ (r.note? pathNote).getD defaultPath
  return (← Http.get url).bind (reportOfPage url)

/-- The plugin. -/
def plugin : Plugin where
  identity := identity
  detect := detect
  collect := collect

end HostTelemetry.Nginx
