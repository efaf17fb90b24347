/-
The environment of the host itself: its containers as the engine lists
them, and its processes as the kernel shows them. An engine that does not
answer within five seconds, or answers badly, has no containers.
-/
import HostTelemetry.Container.Inventory
import HostTelemetry.Discovery.Environment
import HostTelemetry.Discovery.Processes

namespace HostTelemetry.Discovery

open Container (Answer Summary cleanName)

/-- The milliseconds that the list of containers may take. -/
def listBudget : Nat := 5000

/-- A container of the engine's list. -/
def Candidate.ofSummary (s : Summary) : Candidate where
  name := cleanName s.names
  image := s.image
  state := s.state
  hostPorts := (s.publicPorts.filterMap id).filterMap fun p =>
    if p = 0 then none else some p.toNat

/-- The containers that an engine lists in time. -/
def candidates (list : Answer (List Summary)) : List Candidate :=
  match list.within? listBudget with
  | some (some summaries, _) => summaries.map Candidate.ofSummary
  | _ => []

/-- The environment of a host, with the list of an engine if there is
one. -/
def Environment.ofHost (list : Option (Answer (List Summary))) (t : ProcTree) :
    Environment where
  containers := (list.map candidates).getD []
  processes := .ofList (t.processes.entries.map fun (_, name) => (name, ()))
  ports := t.portsByName

end HostTelemetry.Discovery
