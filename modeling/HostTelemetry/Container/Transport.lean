/-
An engine that is asked over a connection: its answers are what replies
hold. A reply counts as failed if its status is not one of success, or if
its body does not hold the JSON that was asked for.

The list and an inspection are bodies that have to be complete. Statistics
come as a body of values on lines, of which the first is taken as soon as
it is there; what the connection does afterwards does not matter.
-/
import HostTelemetry.Container.Inventory
import HostTelemetry.Http.Message
import HostTelemetry.Http.Path
import HostTelemetry.Json.Reader

namespace HostTelemetry.Container

open Http (Body Reply Response)

/-- Whether a reply with this status has a body that counts: it is one of
success, and not the one that says that there is no content. -/
def bringsBody (status : Nat) : Bool := 200 ≤ status && status < 300 && status != 204

-- ====================================================== complete bodies

/-- The answer that a complete body gives; `got` has arrived before. -/
def wholeBody {α : Type} (read? : Json → Option α) (got : Bytes) : Body → Answer α
  | .complete => .after 0 ((Json.ofBytes? got).bind read?)
  | .broken => .after 0 none
  | .stalled => .silence
  | .chunk bytes rest => wholeBody read? (got ++ bytes) rest

-- ========================================================= lines of values

/-- The byte that ends a line. -/
def lineFeed : UInt8 := 0x0A

/-- The value on the first line. -/
def firstLine? {α : Type} (read? : Json → Option α) (got : Bytes) : Option α :=
  (Json.ofBytes? (got.takeWhile (· ≠ lineFeed))).bind read?

/-- The bytes without the first line end, for a value that goes on behind
it. -/
def joinLines (got : Bytes) : Bytes :=
  got.takeWhile (· ≠ lineFeed) ++ (got.dropWhile (· ≠ lineFeed)).drop 1

/-- The first value of a body of lines; `got` has arrived before. Whenever
bytes arrive the first line is tried, and once more at the end of the body.
A try that fails gives up one line end. -/
def firstOfLines {α : Type} (read? : Json → Option α) (got : Bytes) : Body → Answer α
  | .complete => .after 0 (firstLine? read? got)
  | .broken => .after 0 none
  | .stalled => .silence
  | .chunk bytes rest =>
    match firstLine? read? (got ++ bytes) with
    | some a => .after 0 (some a)
    | none => firstOfLines read? (joinLines (got ++ bytes)) rest

-- =============================================================== replies

/-- The answer that a reply gives, if its body is read in this way. -/
def Answer.ofReply {α : Type} (ofBody : Body → Answer α) : Reply → Answer α
  | .response r => if bringsBody r.status then ofBody r.body else .after 0 none
  | .closed => .after 0 none
  | .silence => .silence

/-- The engine behind a server that replies to paths. A container is asked
about below its number, which becomes a part of the path. -/
def Engine.ofServer (reply : List String → Reply) : Engine where
  list := .ofReply (wholeBody listOfJson? []) (reply (Http.segments "containers/json"))
  statistics id :=
    .ofReply (firstOfLines Statistics.ofJson? []) (reply (Http.segments s!"containers/{id}/stats"))
  inspection id :=
    .ofReply (wholeBody Inspection.ofJson? []) (reply (Http.segments s!"containers/{id}/json"))

end HostTelemetry.Container
