/-
What is published of a container: its state, what it uses, when it was
started, and the ports of the host that lead into it.
-/
import HostTelemetry.Json.Decode
import HostTelemetry.Text.Lowercase

namespace HostTelemetry.Container

open Json (required? asFloat? asList? asString? asInt64? asUInt16? asUInt64? asName? slots?)

-- ================================================================ state

/-- The state of a container, as far as it matters for what it uses. -/
inductive State where
  | running
  | restarting
  /-- It does not run. -/
  | stopped
deriving DecidableEq, Repr, Inhabited

/-- The name of a state. -/
def State.name : State → String
  | .running => "running"
  | .restarting => "restarting"
  | .stopped => "stopped"

/-- The state with the given name. -/
def State.ofName? : String → Option State
  | "running" => some .running
  | "restarting" => some .restarting
  | "stopped" => some .stopped
  | _ => none

/-- The state that an engine means by a word, in any case; words for other
states all mean that the container does not run. -/
def State.ofWord (word : String) : State :=
  let small := Text.lowercase word.toList
  if small = "running".toList then .running
  else if small = "restarting".toList then .restarting
  else .stopped

-- ================================================================ ports

/-- A port of the host that leads to a port of a container. -/
structure Port where
  host : UInt16
  container : UInt16
  /-- The protocol, such as `tcp`. -/
  protocol : String
deriving DecidableEq, Repr, Inhabited

-- ================================================================ usage

/-- A container and what it uses. -/
structure Usage where
  /-- The first characters of its number. -/
  id : String
  name : String
  image : String
  status : State
  /-- Its share of a core's time, from 0 to 100 for each core. -/
  cpuPercent : Float := 0
  /-- Its memory, in units of 2 ^ 20 bytes. -/
  memoryUsageMB : Float := 0
  /-- The limit of its memory, in the same units; 0 if there is none. -/
  memoryLimitMB : Float := 0
  /-- The bytes it has received. -/
  networkRx : UInt64 := 0
  /-- The bytes it has sent. -/
  networkTx : UInt64 := 0
  /-- The bytes it has read from disks. -/
  blockRead : UInt64 := 0
  /-- The bytes it has written to disks. -/
  blockWrite : UInt64 := 0
  pids : UInt64 := 0
  /-- When it was started. -/
  startedAt : String := ""
  /-- The ports that lead into it. -/
  ports : List Port := []
  /-- How often it was started again. -/
  restartCount : Int64 := 0
  healthStatus : String := "none"
deriving Inhabited

-- ================================================================= JSON

/-- The state in JSON. -/
def State.toJson (s : State) : Json := .str s.name

/-- Reads a state. -/
def State.ofJson? (j : Json) : Option State := (asName? j).bind State.ofName?

/-- The port in JSON. -/
def Port.toJson (p : Port) : Json :=
  .obj [("hostPort", .ofUInt16 p.host), ("containerPort", .ofUInt16 p.container),
    ("protocol", .str p.protocol)]

/-- Reads a port. -/
def Port.ofJson? (j : Json) : Option Port := do
  match ← slots? ["hostPort", "containerPort", "protocol"] j with
  | [host, container, protocol] =>
    return {
      host := ← required? asUInt16? host
      container := ← required? asUInt16? container
      protocol := ← required? asString? protocol }
  | _ => none

/-- The usage in JSON. -/
def Usage.toJson (u : Usage) : Json :=
  .obj [("id", .str u.id), ("name", .str u.name), ("image", .str u.image),
    ("status", u.status.toJson), ("cpuPercent", .ofFloat u.cpuPercent),
    ("memoryUsageMB", .ofFloat u.memoryUsageMB), ("memoryLimitMB", .ofFloat u.memoryLimitMB),
    ("networkRxBytes", .ofUInt64 u.networkRx), ("networkTxBytes", .ofUInt64 u.networkTx),
    ("blockReadBytes", .ofUInt64 u.blockRead), ("blockWriteBytes", .ofUInt64 u.blockWrite),
    ("pids", .ofUInt64 u.pids), ("startedAt", .str u.startedAt),
    ("ports", .arr (u.ports.map Port.toJson)), ("restartCount", .int u.restartCount.toInt),
    ("healthStatus", .str u.healthStatus)]

/-- Reads a usage. -/
def Usage.ofJson? (j : Json) : Option Usage := do
  match ← slots? ["id", "name", "image", "status", "cpuPercent", "memoryUsageMB",
      "memoryLimitMB", "networkRxBytes", "networkTxBytes", "blockReadBytes",
      "blockWriteBytes", "pids", "startedAt", "ports", "restartCount", "healthStatus"] j with
  | [id, name, image, status, cpuPercent, memoryUsageMB, memoryLimitMB, networkRx, networkTx,
      blockRead, blockWrite, pids, startedAt, ports, restartCount, healthStatus] =>
    return {
      id := ← required? asString? id
      name := ← required? asString? name
      image := ← required? asString? image
      status := ← required? State.ofJson? status
      cpuPercent := ← required? asFloat? cpuPercent
      memoryUsageMB := ← required? asFloat? memoryUsageMB
      memoryLimitMB := ← required? asFloat? memoryLimitMB
      networkRx := ← required? asUInt64? networkRx
      networkTx := ← required? asUInt64? networkTx
      blockRead := ← required? asUInt64? blockRead
      blockWrite := ← required? asUInt64? blockWrite
      pids := ← required? asUInt64? pids
      startedAt := ← required? asString? startedAt
      ports := ← required? (asList? Port.ofJson?) ports
      restartCount := ← required? asInt64? restartCount
      healthStatus := ← required? asString? healthStatus }
  | _ => none

end HostTelemetry.Container
