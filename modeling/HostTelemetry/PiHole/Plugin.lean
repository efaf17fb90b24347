/-
The plugin for Pi-hole. It finds a server by its container, by the ports
of its processes, by the port in its settings, or by common ports, and by
the first of several paths that answers as a Pi-hole does.

A v6 server may want a login. Its summary is asked for without one, then
with the cached session, then with one fresh login. A session that a
request was refused with is given up, and a fresh one that is refused too
means that the login failed. The state of the blocking is public, and is
reported where the summary fails for another reason.
-/
import HostTelemetry.Http.Fetch
import HostTelemetry.PiHole.Summary
import HostTelemetry.PiHole.WebPort
import HostTelemetry.Service.Plugin

namespace HostTelemetry.PiHole

open Discovery (Candidate Environment)
open Http (Credentials Dialogue Grant Sighting)
open Json (orElse? required? asBool? asInt64? asOption? asString? asUInt64? slots?)
open Service (Fault Identity Params Plugin Record Report)

/-- Who the plugin is. -/
def identity : Identity := ⟨"pihole", "Pi-hole", "shield.checkerboard"⟩

/-- The note of the web password. -/
def passwordNote : String := "password"

-- ============================================================ detection

/-- The ports that are tried for a container besides its own. -/
def containerPorts : List Nat := [80, 8080]

/-- The ports that are tried at last. -/
def commonPorts : List Nat := [80, 8080, 443, 8443]

/-- Whether an answer is the web interface: a page that names it, or a
redirect that stays under its path. -/
def looksLikeAdmin (s : Sighting) : Bool :=
  if s.isRedirect then s.location.any fun l => Text.occursIn "/admin".toList l.toList
  else Text.occursIn "pi-hole".toList (Text.lowercase s.body)

/-- A path that is probed. -/
structure Trial where
  path : String
  /-- Whether an answer is that of a Pi-hole. -/
  accepts : Sighting → Bool
  /-- The generation that the path implies; empty if none. -/
  version : String

/-- Whether the body of an answer contains a text. -/
def bodyHas (text : String) (s : Sighting) : Bool := Text.occursIn text.toList s.body

/-- The paths that are probed, in order. -/
def trials : List Trial :=
  [⟨"/admin/api.php?summaryRaw", bodyHas "dns_queries_today", v5⟩,
    ⟨"/api/dns/blocking", bodyHas "\"blocking\"", v6⟩,
    ⟨"/api/auth", bodyHas "\"session\"", v6⟩,
    ⟨"/admin/", looksLikeAdmin, ""⟩]

/-- Tries one path after the other at the ports. -/
def probeTrials (ports : List Nat) : List Trial → Dialogue (Option Record)
  | [] => .done none
  | t :: rest => do
    match ← Http.probe ports t.path t.accepts with
    | some url => return some { identity.recordAt url with version := t.version }
    | none => probeTrials ports rest

/-- Tries one list of ports after the other. -/
def probeLists : List (List Nat) → Dialogue (Option Record)
  | [] => .done none
  | ports :: rest => do
    match ← probeTrials ports trials with
    | some r => return some r
    | none => probeLists rest

/-- The container that may be a server. -/
def container? (e : Environment) : Option Candidate :=
  (e.findImage? "pihole").filter (·.isRunning)

/-- The name of the server's process. -/
def processName : String := "pihole-FTL"

/-- Whether a process of the server runs. -/
def hasProcess (e : Environment) : Bool := e.hasProcess processName || e.hasProcessLike "pihole"

/-- The ports of the server's processes. -/
def processPorts (e : Environment) : List Nat :=
  match e.portsOf processName with
  | [] => e.portsLike "pihole"
  | ports => ports

/-- The lists of ports to try, in order: those of the container; and if a
process runs, those of the processes, the one in the settings, and common
ones. -/
def portLists (files : SettingsFiles) (e : Environment) : List (List Nat) :=
  let byContainer := (container? e).toList.map fun c => c.hostPorts ++ containerPorts
  let byProcess := if (processPorts e).isEmpty then [] else [processPorts e]
  let bySettings := files.port?.toList.map fun port => [port]
  byContainer ++ if hasProcess e then byProcess ++ bySettings ++ [commonPorts] else []

/-- Looks for a server. -/
def detect (files : SettingsFiles) (e : Environment) : Dialogue (Option Record) :=
  probeLists (portLists files e)

-- ============================================================= requests

/-- A value made of a body, or the fault that the answer is of another
form. -/
def expect {α : Type} (url reason : String) : Option α → Except Fault α
  | some a => .ok a
  | none => .error (.malformed url reason)

/-- Asks for the summary of generation 5. -/
def fetchV5 (base : String) : Dialogue (Except Fault Report) := do
  let url := base ++ "/admin/api.php?summaryRaw"
  return (← Http.getJson Json.document? url).bind fun j =>
    expect url "not a Pi-hole v5 summary" (v5Report? j)

/-- Asks for the summary of generation 6, with a login if there is one. -/
def fetchSummary (base : String) (credentials : Option Credentials) :
    Dialogue (Except Fault Report) := do
  let url := base ++ "/api/stats/summary"
  return (← Http.call .get url credentials none).bind fun body =>
    (Http.decodeBody Json.document? url body).bind fun j =>
      expect url "missing queries object" (v6Report? j)

/-- Asks for the public state of the blocking. -/
def fetchBlocking (base : String) : Dialogue (Except Fault String) := do
  let url := base ++ "/api/dns/blocking"
  return (← Http.getJson Json.document? url).bind fun j =>
    expect url "missing blocking state" (blockingState? j)

/-- Tells the server to block or not to block. -/
def postBlocking (base : String) (body : Json) (credentials : Option Credentials) :
    Dialogue (Except Fault Unit) := do
  return (← Http.call .post (base ++ "/api/dns/blocking") credentials (some body)).map fun _ => ()

-- =============================================================== logins

/-- The answer to a login. -/
structure LoginAnswer where
  /-- Whether the login was good. -/
  valid : Bool
  sid : String
  csrf : String
  /-- The seconds for which the session is granted. -/
  validity : Int
deriving DecidableEq, Repr, Inhabited

/-- Reads the part of an answer that is about the session. -/
def LoginAnswer.ofSession? (j : Json) : Option LoginAnswer := do
  match ← slots? ["valid", "sid", "csrf", "validity"] j with
  | [valid, sid, csrf, validity] =>
    return {
      valid := ← required? asBool? valid
      sid := (← orElse? none (asOption? asString?) sid).getD ""
      csrf := (← orElse? none (asOption? asString?) csrf).getD ""
      validity := (← orElse? 0 asInt64? validity).toInt }
  | _ => none

/-- Reads the answer to a login. -/
def LoginAnswer.ofJson? (j : Json) : Option LoginAnswer := do
  match ← slots? ["session"] j with
  | [session] => required? LoginAnswer.ofSession? session
  | _ => none

/-- What a login grants, if it is good and names a session. -/
def LoginAnswer.grant? (a : LoginAnswer) : Option Grant :=
  if a.valid && a.sid ≠ "" then some ⟨⟨a.sid, a.csrf⟩, a.validity⟩ else none

/-- What is granted by the body of an answer to a login. -/
def grantOfBody (url : String) (body : Bytes) : Except Fault Grant :=
  (Http.decodeBody LoginAnswer.ofJson? url body).bind fun a =>
    match a.grant? with
    | some g => .ok g
    | none => .error (.authFailed "server returned an invalid session")

/-- What is granted by an answer to a login, where a refusal means that the
password is wrong. -/
def grantOfAnswer (url : String) : Except Fault Bytes → Except Fault Grant
  | .ok body => grantOfBody url body
  | .error e => .error (if e.isUnauthorized then .authFailed "invalid Pi-hole password" else e)

/-- Logs in and keeps the session. -/
def authenticate (base password : String) : Dialogue (Except Fault Credentials) := do
  let url := base ++ "/api/auth"
  match grantOfAnswer url (← Http.call .post url none (some (.obj [("password", .str password)])))
    with
  | .ok g => .keep g (.done (.ok g.credentials))
  | .error e => return .error e

-- =========================================================== collection

/-- The summary with a fresh login. A login that is refused at once is
given up. -/
def collectFresh (base : String) : Option String → Dialogue (Except Fault Report)
  | none => .done (.error .authRequired)
  | some password => do
    match ← authenticate base password with
    | .error e => return .error e
    | .ok credentials =>
      match ← fetchSummary base (some credentials) with
      | .ok report => return .ok report
      | .error e =>
        if e.isUnauthorized then
          .forget (.done (.error (.authFailed "new session rejected by the summary endpoint")))
        else return .error e

/-- The summary with the cached session, or with a fresh login if there is
none or it is refused. -/
def collectCached (base : String) (password : Option String) :
    Option Credentials → Dialogue (Except Fault Report)
  | none => collectFresh base password
  | some credentials => do
    match ← fetchSummary base (some credentials) with
    | .ok report => return .ok report
    | .error e =>
      if e.isUnauthorized then .forget (collectFresh base password) else return .error e

/-- The summary of generation 6: without a login first. -/
def collectV6 (base : String) (password : Option String) : Dialogue (Except Fault Report) := do
  match ← fetchSummary base none with
  | .ok report => return .ok report
  | .error e =>
    if e.isUnauthorized then .consult (collectCached base password) else return .error e

/-- The report of the public state, where the summary of generation 6 has
failed: a failed login is never hidden behind it. -/
def collectPublic (base : String) (e : Fault) : Dialogue (Except Fault Report) :=
  match e with
  | .authRequired => do
    return .ok (authRequiredReport (← fetchBlocking base).toOption)
  | .authFailed reason => .done (.error (.authFailed reason))
  | e => do
    match ← fetchBlocking base with
    | .ok blocking => return .ok (blockingReport blocking)
    | .error _ => return .error e

/-- Asks a server how it does. -/
def collect (r : Record) : Dialogue (Except Fault Report) := do
  match ← fetchV5 r.baseUrl with
  | .ok report => return .ok report
  | .error _ =>
    match ← collectV6 r.baseUrl (r.note? passwordNote) with
    | .ok report => return .ok report
    | .error e => collectPublic r.baseUrl e

-- ============================================================== actions

/-- What the action asks for. -/
structure SetBlocking where
  /-- Whether to block. -/
  enabled : Bool
  /-- The seconds after which the state changes back. -/
  timer : Option UInt64
deriving DecidableEq, Repr, Inhabited

/-- Reads the parameters. -/
def SetBlocking.ofParams? (params : Params) : Option SetBlocking := do
  match ← slots? ["enabled", "timer"] (.obj params) with
  | [enabled, timer] =>
    return {
      enabled := ← required? asBool? enabled
      timer := ← orElse? none (asOption? asUInt64?) timer }
  | _ => none

/-- The body of the request. -/
def SetBlocking.body (s : SetBlocking) : Json :=
  .obj [("blocking", .bool s.enabled), ("timer", (s.timer.map Json.ofUInt64).getD .null)]

/-- What was done. -/
def SetBlocking.description (s : SetBlocking) : String :=
  if s.enabled then "blocking enabled"
  else match s.timer with
    | some secs => if 0 < secs then s!"blocking disabled for {secs}s" else "blocking disabled"
    | none => "blocking disabled"

/-- The name of the action. -/
def setBlockingName : String := "setBlocking"

/-- Sends the request once more with a fresh login. -/
def blockFresh (base : String) (body : Json) : Option String → Dialogue (Except Fault Unit)
  | none => .done (.error .authRequired)
  | some password => do
    match ← authenticate base password with
    | .error e => return .error e
    | .ok credentials =>
      match ← postBlocking base body (some credentials) with
      | .ok () => return .ok ()
      | .error e =>
        if e.isUnauthorized then
          .forget (.done (.error (.authFailed "new session rejected by the blocking endpoint")))
        else return .error e

/-- Sends the request with the cached session, and once more with a fresh
login if it is refused. -/
def block (base : String) (password : Option String) (body : Json) :
    Dialogue (Except Fault Unit) :=
  .consult fun credentials => do
    match ← postBlocking base body credentials with
    | .ok () => return .ok ()
    | .error e =>
      if e.isUnauthorized then .forget (blockFresh base body password) else return .error e

/-- Performs an action. -/
def act (r : Record) (action : String) (params : Params) : Dialogue (Except Fault String) :=
  if action ≠ setBlockingName then .done (.error (.unsupportedAction action))
  else if r.version = v5 then
    .done (.error (.unsupportedAction s!"{action} requires Pi-hole v6"))
  else match SetBlocking.ofParams? params with
    | none => .done (.error (.invalidParams none))
    | some s => do
      return (← block r.baseUrl (r.note? passwordNote) s.body).map fun _ => s.description

/-- The plugin, for an installation with these settings. -/
def plugin (files : SettingsFiles) : Plugin where
  identity := identity
  detect := detect files
  collect := collect
  act := act

end HostTelemetry.PiHole
