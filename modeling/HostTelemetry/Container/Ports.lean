/-
The published ports of a container. The engine lists, for each port of the
container, the addresses of the host that are bound to it; the address is
dropped, so the bindings of one port over two address families become one.

The list is ascending by host port, container port and protocol, without
repetitions, so it depends only on which bindings there are.
-/
import HostTelemetry.Container.Usage
import HostTelemetry.Text.Blank

namespace HostTelemetry.Container

-- ================================================================ order

/-- Whether the port stands before another. -/
def Port.before (p q : Port) : Bool :=
  p.host < q.host || (p.host == q.host &&
    (p.container < q.container || (p.container == q.container && p.protocol < q.protocol)))

/-- Puts a port into its place among ascending ones, unless it is there. -/
def Port.place (p : Port) : List Port → List Port
  | [] => [p]
  | q :: r =>
    if p.before q then p :: q :: r
    else if p = q then q :: r
    else q :: p.place r

/-- The ports in ascending order, each once. -/
def Port.ascending (ports : List Port) : List Port := ports.foldl (fun done p => p.place done) []

-- ============================================================= bindings

/-- The bindings of a container's ports: for each key (a port and, behind a
slash, a protocol) the host ports as texts, or nothing if none is bound. -/
abbrev PortMap := List (String × Option (List (Option String)))

/-- The container port and the protocol that a key names. -/
def keyParts? (key : String) : Option (UInt16 × String) :=
  let (port, protocol) := match Text.splitFirst? '/' key.toList with
    | some (port, protocol) => (port, String.ofList protocol)
    | none => (key.toList, "tcp")
  (Text.natural? Text.maxU16 port).map fun n => (UInt16.ofNat n, protocol)

/-- The port of one binding. -/
def bindingPort? (container : UInt16) (protocol : String) (hostPort : Option String) :
    Option Port :=
  (hostPort.bind fun s => Text.natural? Text.maxU16 s.toList).map fun n =>
    ⟨UInt16.ofNat n, container, protocol⟩

/-- The ports of all bindings, in ascending order. -/
def publishedPorts (map : PortMap) : List Port :=
  Port.ascending <| map.flatMap fun (key, bindings) =>
    match keyParts? key with
    | some (container, protocol) => (bindings.getD []).filterMap (bindingPort? container protocol)
    | none => []

end HostTelemetry.Container
