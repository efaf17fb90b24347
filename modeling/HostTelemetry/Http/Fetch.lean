/-
The two ways in which plugins ask a service. A call of its interface wants
the status 200 and takes up to 2 ^ 20 bytes within five seconds; a probe
wants to know who answers at a port of this host, takes any status from
200 to 399 and up to 2 ^ 16 bytes within two seconds, and does not follow
where an answer points.
-/
import HostTelemetry.Http.Dialogue
import HostTelemetry.Json.Reader
import HostTelemetry.Service.Fault

namespace HostTelemetry.Http

open Service (Fault)

-- ======================================================= interface calls

/-- The milliseconds that a call may take. -/
def callPatience : Nat := 5000

/-- The bytes of an answer that a call takes. -/
def maxCallBody : Nat := 0x100000

/-- The fault of a call whose body could not be read. -/
def BodyFault.fault (url : String) : BodyFault → Fault
  | .broken => .request url
  | .stalled => .timeout callPatience

/-- The content of the answer to a call. -/
def Reply.content (url : String) : Reply → Except Fault Bytes
  | .closed => .error (.request url)
  | .silence => .error (.timeout callPatience)
  | .response r =>
    if r.status ≠ 200 then .error (.status url r.status)
    else (readLimited maxCallBody r.body).mapError (·.fault url)

/-- Whether a text can be sent as the value of a header. -/
def isHeaderText (s : String) : Bool :=
  s.toList.all fun c => c = '\t' || (0x20 ≤ c.toNat && c.toNat ≠ 0x7F)

/-- Whether a login can be presented. -/
def Credentials.canBeSent (c : Credentials) : Bool := isHeaderText c.sid && isHeaderText c.csrf

/-- The request that a call sends. -/
def Dialogue.callRequest (method : Method) (url : String) (credentials : Option Credentials)
    (body : Option Json) : Request where
  method := method
  url := url
  credentials := credentials
  body := body
  patience := callPatience
  least := 200
  greatest := 200
  limit := maxCallBody
  follow := true

@[simp] theorem Dialogue.credentials_callRequest (method : Method) (url : String)
    (credentials : Option Credentials) (body : Option Json) :
    (callRequest method url credentials body).credentials = credentials := rfl

/-- Calls the interface of a service. A login that cannot be presented
makes the call fail before anything is sent. The address is one that can be
asked: services are found by asking them. -/
def call (method : Method) (url : String) (credentials : Option Credentials)
    (body : Option Json) : Dialogue (Except Fault Bytes) :=
  if credentials.all Credentials.canBeSent then
    .exchange (Dialogue.callRequest method url credentials body) fun reply => .done (reply.content url)
  else .done (.error (.request url))

/-- Reads something from a service. -/
def get (url : String) : Dialogue (Except Fault Bytes) := call .get url none none

/-- What a body holds as JSON, if it can be read in the expected form. -/
def decodeBody {α : Type} (read? : Json → Option α) (url : String) (body : Bytes) :
    Except Fault α :=
  match (Json.ofBytes? body).bind read? with
  | some a => .ok a
  | none => .error (.malformed url Fault.undecodable)

/-- Reads a JSON value of an expected form from a service. -/
def getJson {α : Type} (read? : Json → Option α) (url : String) :
    Dialogue (Except Fault α) := do
  return (← get url).bind (decodeBody read? url)

-- ================================================================ probes

/-- The milliseconds that a probe may take. -/
def probePatience : Nat := 2000

/-- The bytes of an answer that a probe takes. -/
def maxProbeBody : Nat := 0x10000

/-- The names under which this host is asked, in order. -/
def probeHosts : List String := ["127.0.0.1", "localhost"]

/-- What a probe saw. -/
structure Sighting where
  status : Nat
  /-- Where the answer points, if it says so in visible characters. -/
  location : Option String
  /-- The start of the body as text. -/
  body : List Char
deriving DecidableEq, Repr, Inhabited

/-- Whether the answer points elsewhere. -/
def Sighting.isRedirect (s : Sighting) : Bool := 300 ≤ s.status && s.status < 400

/-- Whether the text consists of visible ASCII characters, blanks and tabs. -/
def isVisible (s : String) : Bool :=
  s.toList.all fun c => c = '\t' || (0x20 ≤ c.toNat && c.toNat < 0x7F)

/-- What a probe sees of a reply. A body that breaks off counts as empty. -/
def Reply.sighting? : Reply → Option Sighting
  | .response r =>
    if 200 ≤ r.status ∧ r.status < 400 then
      some {
        status := r.status
        location := r.location.filter isVisible
        body := match readLimited maxProbeBody r.body with
          | .ok bytes => Text.decodeLossy bytes
          | .error _ => [] }
    else none
  | .closed | .silence => none

/-- The ports without repetitions, in the order of their first places. -/
def distinctPorts (ports : List Nat) : List Nat := ports.eraseDups

/-- The addresses that are probed for the ports: each port under each name
of this host. -/
def probeBases (ports : List Nat) : List String :=
  (distinctPorts ports).flatMap fun port => probeHosts.map fun host => s!"http://{host}:{port}"

/-- The request by which a probe asks for a page. -/
def probeRequest (url : String) : Request where
  url := url
  patience := probePatience
  least := 200
  greatest := 399
  limit := maxProbeBody
  follow := false

@[simp] theorem url_probeRequest (url : String) : (probeRequest url).url = url := rfl

/-- Asks one address after the other until an answer is accepted. -/
def probeEach (path : String) (accept : Sighting → Bool) :
    List String → Dialogue (Option String)
  | [] => .done none
  | base :: rest =>
    .exchange (probeRequest (base ++ path)) fun reply =>
      if (reply.sighting?.map accept).getD false then .done (some base)
      else probeEach path accept rest

/-- The address of the first port whose answer is accepted. -/
def probe (ports : List Nat) (path : String) (accept : Sighting → Bool) :
    Dialogue (Option String) :=
  probeEach path accept (probeBases ports)

end HostTelemetry.Http
