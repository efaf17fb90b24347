/-
What a sampler publishes of a host: processor, memory, disks, network and
uptime in one snapshot, and an event that adds the heaviest processes.
-/
import HostTelemetry.Host.Disk
import HostTelemetry.Network.Report
import HostTelemetry.Proc.Usage

namespace HostTelemetry.Host

open Json (required? asBool? asFloat? asList? asUInt64? slots?)

/-- The load of the processor. -/
structure CpuLoad where
  /-- The share of time that all cores together were busy, from 0 to 100. -/
  usagePercent : Float := 0
  coreCount : UInt64 := 0
  /-- The temperature, without meaning if no sensor gave one. -/
  temperature : Float := 0
  /-- Whether a sensor gave a temperature. -/
  temperatureAvailable : Bool := false
deriving Inhabited

/-- The memory of a host. -/
structure Memory where
  /-- The bytes in use. -/
  used : UInt64 := 0
  /-- The bytes there are. -/
  total : UInt64 := 0
deriving DecidableEq, Inhabited

/-- A host at one moment. -/
structure Snapshot where
  cpu : CpuLoad := {}
  memory : Memory := {}
  disks : List Disk := []
  /-- What its interfaces did since the moment before. -/
  network : Network.Report := {}
  /-- The seconds since it started. -/
  uptime : UInt64 := 0
deriving Inhabited

/-- What is published of a host at every tick. -/
structure Event where
  system : Snapshot
  /-- Its heaviest processes, the heaviest first. -/
  processes : List Proc.Usage
deriving Inhabited

-- ================================================================= JSON

/-- The load in JSON. -/
def CpuLoad.toJson (c : CpuLoad) : Json :=
  .obj [("usagePercent", .ofFloat c.usagePercent), ("coreCount", .ofUInt64 c.coreCount),
    ("temperature", .ofFloat c.temperature),
    ("temperatureAvailable", .bool c.temperatureAvailable)]

/-- Reads a load. -/
def CpuLoad.ofJson? (j : Json) : Option CpuLoad := do
  match ← slots? ["usagePercent", "coreCount", "temperature", "temperatureAvailable"] j with
  | [usagePercent, coreCount, temperature, temperatureAvailable] =>
    return {
      usagePercent := ← required? asFloat? usagePercent
      coreCount := ← required? asUInt64? coreCount
      temperature := ← required? asFloat? temperature
      temperatureAvailable := ← required? asBool? temperatureAvailable }
  | _ => none

/-- The memory in JSON. -/
def Memory.toJson (m : Memory) : Json :=
  .obj [("usedBytes", .ofUInt64 m.used), ("totalBytes", .ofUInt64 m.total)]

/-- Reads a memory. -/
def Memory.ofJson? (j : Json) : Option Memory := do
  match ← slots? ["usedBytes", "totalBytes"] j with
  | [used, total] =>
    return { used := ← required? asUInt64? used, total := ← required? asUInt64? total }
  | _ => none

/-- The snapshot in JSON. -/
def Snapshot.toJson (s : Snapshot) : Json :=
  .obj [("cpu", s.cpu.toJson), ("memory", s.memory.toJson),
    ("disks", .arr (s.disks.map Disk.toJson)), ("network", s.network.toJson),
    ("uptimeSeconds", .ofUInt64 s.uptime)]

/-- Reads a snapshot. -/
def Snapshot.ofJson? (j : Json) : Option Snapshot := do
  match ← slots? ["cpu", "memory", "disks", "network", "uptimeSeconds"] j with
  | [cpu, memory, disks, network, uptime] =>
    return {
      cpu := ← required? CpuLoad.ofJson? cpu
      memory := ← required? Memory.ofJson? memory
      disks := ← required? (asList? Disk.ofJson?) disks
      network := ← required? Network.Report.ofJson? network
      uptime := ← required? asUInt64? uptime }
  | _ => none

/-- The event in JSON. -/
def Event.toJson (e : Event) : Json :=
  .obj [("system", e.system.toJson), ("processes", .arr (e.processes.map Proc.Usage.toJson))]

/-- Reads an event. -/
def Event.ofJson? (j : Json) : Option Event := do
  match ← slots? ["system", "processes"] j with
  | [system, processes] =>
    return {
      system := ← required? Snapshot.ofJson? system
      processes := ← required? (asList? Proc.Usage.ofJson?) processes }
  | _ => none

end HostTelemetry.Host
