/-
What is taken from the answers of a container engine: from the list of
containers, the statistics of one, and the inspection of one. An answer is
taken only if it has its shape as a whole.
-/
import HostTelemetry.Container.Ports
import HostTelemetry.Container.Shapes

namespace HostTelemetry.Container

open Json (arr? asDict? asInt64? asList? asName? asNat? asString? asUInt16?)

-- ================================================================= list

/-- A container in the list. -/
structure Summary where
  id : String := ""
  names : Option (List String) := none
  image : String := ""
  /-- The word for its state. -/
  state : String := ""
  /-- For each port of the container, the port of the host if it has one. -/
  publicPorts : List (Option UInt16) := []
deriving Inhabited

/-- The public port of a port. -/
def publicPort? (j : Json) : Option UInt16 := Shapes.port.read? asUInt16? j ["PublicPort"]

/-- Reads a container of the list. -/
def Summary.ofJson? (j : Json) : Option Summary :=
  let s := Shapes.summary
  if s.fits j then
    some {
      id := (s.read? asString? j ["Id"]).getD ""
      names := s.read? (asList? asString?) j ["Names"]
      image := (s.read? asString? j ["Image"]).getD ""
      state := (s.read? asName? j ["State"]).getD ""
      publicPorts := ((s.read? arr? j ["Ports"]).getD []).map publicPort? }
  else none

/-- Reads the list of containers. -/
def listOfJson? : Json → Option (List Summary) := asList? Summary.ofJson?

/-- The name to show: the first one, without the slashes in front. -/
def cleanName (names : Option (List String)) : String :=
  match names with
  | some (name :: _) => String.ofList (name.toList.dropWhile (· = '/'))
  | _ => ""

-- =========================================================== statistics

/-- The counters of processor time at one moment, in units of the engine. -/
structure CpuReading where
  /-- The time that the container had. -/
  container : Nat := 0
  /-- The time that the whole system had. -/
  system : Nat := 0
  /-- The number of cores that the container's time is listed for. -/
  listedCores : Nat := 0
  onlineCores : Nat := 0
deriving DecidableEq, Inhabited

/-- The statistics of a running container. -/
structure Statistics where
  /-- The processor time now. -/
  cpu : Option CpuReading := none
  /-- The processor time at the reading before. -/
  before : Option CpuReading := none
  memoryUsage : Nat := 0
  memoryLimit : Nat := 0
  /-- For each network the bytes received and sent. -/
  networks : List (Nat × Nat) := []
  /-- For each kind of access to disks its name and its bytes. -/
  blockAccess : List (String × Nat) := []
  pids : Nat := 0
deriving Inhabited

/-- The number at the end of a path, 0 if there is none. -/
def countAt (s : Json.Shape) (j : Json) (path : List String) : Nat :=
  (s.read? (asNat? Text.maxU64) j path).getD 0

/-- The counters of processor time in a value of their shape. -/
def CpuReading.ofJson (j : Json) : CpuReading where
  container := countAt Shapes.cpu j ["cpu_usage", "total_usage"]
  system := countAt Shapes.cpu j ["system_cpu_usage"]
  listedCores := ((Shapes.cpu.read? arr? j ["cpu_usage", "percpu_usage"]).getD []).length
  onlineCores := countAt Shapes.cpu j ["online_cpus"]

/-- The bytes received from a network and sent to it. -/
def traffic (j : Json) : Nat × Nat :=
  (countAt Shapes.network j ["rx_bytes"], countAt Shapes.network j ["tx_bytes"])

/-- The name of a kind of access to disks and its bytes. -/
def blockAccess (j : Json) : String × Nat :=
  ((Shapes.blockAccess.read? asString? j ["op"]).getD "", countAt Shapes.blockAccess j ["value"])

/-- Reads the statistics of a container. -/
def Statistics.ofJson? (j : Json) : Option Statistics :=
  let s := Shapes.statistics
  if s.fits j then
    some {
      cpu := (s.at? j ["cpu_stats"]).map CpuReading.ofJson
      before := (s.at? j ["precpu_stats"]).map CpuReading.ofJson
      memoryUsage := countAt s j ["memory_stats", "usage"]
      memoryLimit := countAt s j ["memory_stats", "limit"]
      networks :=
        ((s.read? (asDict? (some ∘ traffic)) j ["networks"]).getD ∅).entries.map (·.2)
      blockAccess := ((s.read? arr? j
        ["blkio_stats", "io_service_bytes_recursive"]).getD []).map Container.blockAccess
      pids := countAt s j ["pids_stats", "current"] }
  else none

-- =========================================================== inspection

/-- What an inspection tells of a container. -/
structure Inspection where
  /-- When it was started, if known. -/
  startedAt : Option String := none
  /-- The word for its health, if known. -/
  health : Option String := none
  /-- How often it was started again. -/
  restartCount : Int64 := 0
  /-- The bindings of its ports, if known. -/
  ports : Option PortMap := none
deriving Inhabited

/-- The host ports that are bound to one port of a container. -/
def hostPorts (j : Json) : Option (List (Option String)) :=
  (arr? j).map fun bindings => bindings.map fun j => Shapes.binding.read? asString? j ["HostPort"]

/-- Reads the bindings of all ports. -/
def portMapOfJson? (j : Json) : Option PortMap :=
  if Shapes.portMap.fits j then (asDict? (some ∘ hostPorts) j).map (·.entries) else none

/-- Reads an inspection. -/
def Inspection.ofJson? (j : Json) : Option Inspection :=
  let s := Shapes.inspection
  if s.fits j then
    some {
      startedAt := s.read? asString? j ["State", "StartedAt"]
      health := s.read? asName? j ["State", "Health", "Status"]
      restartCount := (s.read? asInt64? j ["RestartCount"]).getD 0
      ports := s.read? portMapOfJson? j ["NetworkSettings", "Ports"] }
  else none

end HostTelemetry.Container
