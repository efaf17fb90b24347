/-
What plugins look at to find their services: the containers of a host, the
names of its processes, and the ports on which they listen. All plugins of
one detection look at the same environment.
-/
import HostTelemetry.Dict
import HostTelemetry.Json.Basic
import HostTelemetry.Text.Lowercase
import HostTelemetry.Text.Blank

namespace HostTelemetry.Discovery

/-- A container in which a service may run. -/
structure Candidate where
  name : String := ""
  image : String := ""
  /-- The engine's word for its state. -/
  state : String := ""
  /-- The ports of the host that lead into it. -/
  hostPorts : List Nat := []
deriving DecidableEq, Repr, Inhabited

/-- Whether the container runs. -/
def Candidate.isRunning (c : Candidate) : Bool := c.state = "running"

/-- Whether the image contains a text, in any case. -/
def Candidate.imageHas (text : String) (c : Candidate) : Bool :=
  Text.occursIn (Text.lowercase text.toList) (Text.lowercase c.image.toList)

/-- A host as plugins see it. -/
structure Environment where
  /-- The containers, in the order of the engine. -/
  containers : List Candidate := []
  processes : Dict String Unit := ∅
  /-- The ports on which the processes of a name listen. -/
  ports : Dict String (List Nat) := ∅
deriving Inhabited

namespace Environment

/-- The environment with these containers, process names and ports. -/
def ofLists (containers : List Candidate) (processes : List String)
    (ports : List (String × List Nat)) : Environment where
  containers := containers
  processes := .ofList (processes.map fun name => (name, ()))
  ports := .ofList ports

/-- The first container whose image contains a text, in any case. -/
def findImage? (e : Environment) (text : String) : Option Candidate :=
  e.containers.find? (·.imageHas text)

/-- Whether there is a process of this name. -/
def hasProcess (e : Environment) (name : String) : Bool := (e.processes.get? name).isSome

/-- Whether the name of a process contains a text. -/
def hasProcessLike (e : Environment) (text : String) : Bool :=
  e.processes.keys.any fun name => Text.occursIn text.toList name.toList

/-- The ports of the processes of this name. -/
def portsOf (e : Environment) (name : String) : List Nat := (e.ports.get? name).getD []

/-- The ports of all processes whose name contains a text, each once, in
the order of the names. -/
def portsLike (e : Environment) (text : String) : List Nat :=
  ((e.ports.entries.filter fun (name, _) => Text.occursIn text.toList name.toList).flatMap
    (·.2)).eraseDups

end Environment

-- ================================================================= JSON

/-- The container in JSON. -/
def Candidate.toJson (c : Candidate) : Json :=
  .obj [("name", .str c.name), ("image", .str c.image), ("state", .str c.state),
    ("hostPorts", .arr (c.hostPorts.map fun (p : Nat) => .int p))]

end HostTelemetry.Discovery
