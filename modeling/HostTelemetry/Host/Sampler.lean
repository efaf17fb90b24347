/-
The sampler of a host. At every tick it reads the kernel's counters, puts
them beside those of the tick before, and publishes an event. What a tick
cannot tell keeps its last value; between ticks a snapshot shows the
values of the last one, with what can be read at any moment.

The first counters are read when the sampler is made, so that the first
tick has something to compare with.
-/
import HostTelemetry.Host.Cpu
import HostTelemetry.Host.Snapshot
import HostTelemetry.Network.Counters
import HostTelemetry.Proc.Tracker

namespace HostTelemetry.Host

open Proc (Scanned Tracker Usage seconds)

/-- What the kernel shows at a moment; what cannot be read is missing. -/
structure KernelView where
  /-- The counts of processor time. -/
  stat : Option (List Char) := none
  netDev : Option (List Char) := none
deriving Inhabited

/-- What can be read at any moment. -/
structure PointView where
  memory : Memory := {}
  disks : List Disk := []
  /-- The temperature, if a sensor gives one. -/
  temperature : Option Float := none
  /-- The seconds since the host started. -/
  uptime : UInt64 := 0
deriving Inhabited

/-- The figures that change at ticks only. -/
structure TickView where
  /-- The share of processor time. -/
  cpuUsage : Float := 0
  physical : Network.Activity := {}
  virtualSide : Network.Activity := {}
  processes : List Usage := []
deriving Inhabited

/-- What a sampler remembers. -/
structure Sampler where
  cores : Nat
  /-- The last counts of processor time that could be read. -/
  cpu : Option CpuTimes
  /-- The network counters of the last tick. -/
  net : Network.Sample
  /-- The moment of the last tick, in billionths of a second. -/
  moment : Nat
  tracker : Tracker
  /-- The figures of the last tick. -/
  view : TickView := {}
deriving Inhabited

namespace Sampler

/-- A sampler that is made at a moment and reports so many processes, but
at least one. Where the kernel does not show the cores, their number is
`otherwise`. -/
def ofView (k : KernelView) (moment keep otherwise : Nat) : Sampler where
  cores := coreCount k.stat otherwise
  cpu := k.stat.bind CpuTimes.ofStat?
  net := .ofReading k.netDev
  moment := moment
  tracker := { keep := max keep 1 }

/-- The share of processor time since the last reading, if both can be
read and time was counted. -/
def usage? (s : Sampler) (k : KernelView) : Option Float := do
  let before ← s.cpu
  let now ← k.stat.bind CpuTimes.ofStat?
  cpuUsage? before now

/-- The figures after a tick. -/
def viewAt (s : Sampler) (k : KernelView) (moment : Nat) (processes : List Usage) : TickView :=
  let net := Network.Sample.ofReading k.netDev
  let secs := seconds (moment - s.moment)
  let between := Network.Activity.between
  { cpuUsage := (s.usage? k).getD s.view.cpuUsage
    physical := if 0 < secs then between s.net.physical net.physical secs else s.view.physical
    virtualSide :=
      if 0 < secs then between s.net.virtualSide net.virtualSide secs else s.view.virtualSide
    processes := processes }

/-- The host at any moment. -/
def snapshot (s : Sampler) (p : PointView) : Snapshot where
  cpu := {
    usagePercent := s.view.cpuUsage
    coreCount := UInt64.ofNat s.cores
    temperature := p.temperature.getD 0
    temperatureAvailable := p.temperature.isSome }
  memory := p.memory
  disks := p.disks
  network := .ofSides s.view.physical s.view.virtualSide
  uptime := p.uptime

/-- One tick. -/
def tick (s : Sampler) (k : KernelView) (scan : List Scanned) (p : PointView) (moment : Nat) :
    Event × Sampler :=
  let (processes, tracker) := s.tracker.update scan moment s.cores p.memory.total.toNat
  let s := { s with
    cpu := (k.stat.bind CpuTimes.ofStat?).or s.cpu
    net := .ofReading k.netDev
    moment := moment
    tracker := tracker
    view := s.viewAt k moment processes }
  ({ system := s.snapshot p, processes }, s)

/-- The number of processes shown if no number is asked for. -/
def defaultLimit : Nat := 10

/-- The heaviest processes of the last tick. -/
def topProcesses (s : Sampler) (limit : Nat) : List Usage :=
  s.view.processes.take (if limit = 0 then defaultLimit else limit)

end Sampler

end HostTelemetry.Host
