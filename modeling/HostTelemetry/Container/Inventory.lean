/-
The containers of a host with what they use, refreshed from an engine.

A refresh asks for the list and then, for every container on its own, for
statistics (only while it runs) and for an inspection. A container that
fails to answer keeps what it has up to then; a list that fails leaves no
containers. The answers come after some time or never: the list has
fifteen seconds, and each container six of them at most for both of its
answers.
-/
import HostTelemetry.Container.Engine
import HostTelemetry.Number.Dyadic

namespace HostTelemetry.Container

open Number (round2)

-- ============================================================== figures

/-- The share of processor time between two readings, over all cores: the
container's part of the system's time, times the cores. It is zero unless
both times have grown. -/
def cpuPercent (container system : Int) (cores : Nat) : Float :=
  if container ≤ 0 ∨ system ≤ 0 then 0
  else round2 (Float.ofInt container / Float.ofInt system * Float.ofNat (max cores 1) * 100)

/-- The number of cores that a reading stands for. -/
def CpuReading.cores (c : CpuReading) : Nat :=
  if c.listedCores ≠ 0 then c.listedCores
  else if c.onlineCores ≠ 0 then c.onlineCores
  else 1

/-- The share of processor time that the statistics give. -/
def Statistics.cpuPercent (s : Statistics) : Float :=
  match s.cpu, s.before with
  | some now, some before =>
    Container.cpuPercent ((now.container : Int) - before.container)
      ((now.system : Int) - before.system) now.cores
  | _, _ => 0

/-- The bytes of a unit of memory. -/
def bytesPerMB : Float := 1024 * 1024

/-- A number of bytes in units of memory. -/
def megabytes (bytes : Nat) : Float := round2 (Float.ofNat bytes / bytesPerMB)

/-- The limit of memory from which on an engine means that there is none. -/
def unlimitedMemory : Nat := 0x4000000000000000

/-- The sum of the counters of several devices. -/
def totalBytes (counters : List Nat) : Nat := counters.foldl (· + ·) 0

/-- The bytes of all accesses of one kind, whatever the case of its name. -/
def Statistics.blockBytes (s : Statistics) (kind : String) : Nat :=
  totalBytes ((s.blockAccess.filter fun (op, _) => op.map Char.toLower = kind).map (·.2))

-- ============================================================== filling

/-- The number of characters of a container's number that are shown. -/
def shortIdLength : Nat := 12

/-- What the list alone tells of a container. -/
def Usage.ofSummary (s : Summary) : Usage where
  id := String.ofList (s.id.toList.take shortIdLength)
  name := cleanName s.names
  image := s.image
  status := State.ofWord s.state

/-- Adds what the statistics tell. -/
def Usage.withStatistics (u : Usage) (s : Statistics) : Usage :=
  { u with
    cpuPercent := s.cpuPercent
    memoryUsageMB := megabytes s.memoryUsage
    memoryLimitMB :=
      if 0 < s.memoryLimit ∧ s.memoryLimit < unlimitedMemory then megabytes s.memoryLimit else 0
    networkRx := UInt64.ofNat (totalBytes (s.networks.map (·.1)))
    networkTx := UInt64.ofNat (totalBytes (s.networks.map (·.2)))
    blockRead := UInt64.ofNat (s.blockBytes "read")
    blockWrite := UInt64.ofNat (s.blockBytes "write")
    pids := UInt64.ofNat s.pids }

/-- Adds what the inspection tells. -/
def Usage.withInspection (u : Usage) (i : Inspection) : Usage :=
  { u with
    startedAt := i.startedAt.getD u.startedAt
    healthStatus := (i.health.filter (· ≠ "")).getD u.healthStatus
    restartCount := i.restartCount
    ports := (i.ports.map publishedPorts).getD u.ports }

-- ============================================================== answers

/-- An answer of the engine: a value or a failure after some milliseconds,
or none at all. -/
inductive Answer (α : Type) where
  /-- It comes after some milliseconds; a failure has no value. -/
  | after (millis : Nat) (value : Option α)
  | silence
deriving Inhabited

/-- The value of an answer and the milliseconds left behind it, if it comes
within the budget; an answer on the last moment is in time. -/
def Answer.within? {α : Type} (budget : Nat) : Answer α → Option (Option α × Nat)
  | .after millis value => if millis ≤ budget then some (value, budget - millis) else none
  | .silence => none

/-- An engine, by its answers. -/
structure Engine where
  list : Answer (List Summary)
  statistics : String → Answer Statistics
  inspection : String → Answer Inspection
deriving Inhabited

/-- The milliseconds that a refresh has. -/
def refreshBudget : Nat := 15000

/-- The milliseconds that a container has within a refresh. -/
def containerBudget : Nat := 6000

/-- What is known of a container when its budget is over. -/
def Engine.usage (e : Engine) (budget : Nat) (s : Summary) : Usage :=
  let base := Usage.ofSummary s
  let filled :=
    if base.status = .running then
      ((e.statistics s.id).within? budget).map fun (value, left) =>
        ((value.map base.withStatistics).getD base, left)
    else some (base, budget)
  match filled with
  | none => base
  | some (u, left) =>
    match (e.inspection s.id).within? left with
    | some (some i, _) => u.withInspection i
    | _ => u

/-- The containers that a refresh finds, in the order of the list. -/
def Engine.usages (e : Engine) : List Usage :=
  match e.list.within? refreshBudget with
  | some (some summaries, left) => summaries.map (e.usage (min containerBudget left))
  | _ => []

-- ============================================================ inventory

/-- The containers of a host as they were found last. -/
structure Inventory where
  cache : List Usage := []
deriving Inhabited

/-- Asks the engine, if there is one. The second part is the list to
publish, which is the new cache. -/
def Inventory.refresh (_ : Inventory) (engine : Option Engine) : Inventory × List Usage :=
  let usages := match engine with
    | some e => e.usages
    | none => []
  (⟨usages⟩, usages)

end HostTelemetry.Container
