/-
Requests to a service and what comes of them. The body of an answer
arrives in chunks and may break off or stall; `readLimited` takes no more
of it than a limit, and what would happen behind the limit does not
matter.
-/
import HostTelemetry.Json.Basic
import HostTelemetry.Text.Utf8

namespace HostTelemetry.Http

-- ============================================================== requests

/-- What a request asks for. -/
inductive Method where
  | get
  | post
deriving DecidableEq, Repr, Inhabited

/-- A login that a request presents. -/
structure Credentials where
  sid : String
  csrf : String
deriving DecidableEq, Repr, Inhabited

/-- A request. -/
structure Request where
  method : Method := .get
  url : String
  /-- The login, if one is presented. -/
  credentials : Option Credentials := none
  /-- The content, if any. -/
  body : Option Json := none
  /-- The milliseconds that the answer may take, with what is read of its
  body. -/
  patience : Nat
  /-- The least status of the answers whose body is read. -/
  least : Nat
  /-- The greatest one. -/
  greatest : Nat
  /-- The bytes that are read of a body. -/
  limit : Nat
  /-- Whether an answer that points elsewhere is followed. -/
  follow : Bool
deriving Inhabited

-- =============================================================== answers

/-- The body of an answer as it arrives. -/
inductive Body where
  | complete
  | broken
  | stalled
  /-- Some bytes, then the rest. -/
  | chunk (bytes : Bytes) (rest : Body)
deriving Inhabited

/-- The head of an answer with its body. -/
structure Response where
  status : Nat
  /-- Where it points, if anywhere. -/
  location : Option String := none
  body : Body := .complete
deriving Inhabited

/-- What comes of a request. -/
inductive Reply where
  | response (r : Response)
  /-- No connection, or one that was closed without an answer. -/
  | closed
  /-- No answer in time. -/
  | silence
deriving Inhabited

-- ========================================================== bounded bodies

/-- Why a body could not be read. -/
inductive BodyFault where
  | broken
  /-- The time was over. -/
  | stalled
deriving DecidableEq, Repr

/-- Reads a body up to a limit: `got` is what has been read of it. -/
def readOn (limit : Nat) (got : Bytes) : Body → Except BodyFault Bytes
  | .complete => .ok got
  | .broken => .error .broken
  | .stalled => .error .stalled
  | .chunk bytes rest =>
    let got := got ++ bytes.take (limit - got.length)
    if limit ≤ got.length then .ok got else readOn limit got rest

/-- The first bytes of a body, at most `limit` of them. -/
def readLimited (limit : Nat) (body : Body) : Except BodyFault Bytes := readOn limit [] body

/-- Whether a body stalls before the limit is reached. -/
def Body.stalls (limit : Nat) (body : Body) : Bool :=
  match readLimited limit body with
  | .error .stalled => true
  | .error .broken | .ok _ => false

/-- Whether the body of an answer with this status is read. -/
def Request.reads (r : Request) (status : Nat) : Bool :=
  r.least ≤ status && status ≤ r.greatest

theorem Request.reads_iff {r : Request} {status : Nat} :
    r.reads status = true ↔ r.least ≤ status ∧ status ≤ r.greatest := by
  simp [reads]

/-- A complete body that arrives at once. -/
def Body.ofBytes (bytes : Bytes) : Body := .chunk bytes .complete

end HostTelemetry.Http
