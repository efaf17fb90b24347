/-
All that is published or stored reads back as it was.

# One record

For each kind of record there is an equation that says which value is written
under which name, and which are left out (`toJson_eq`). By it the reader finds
for each name what was written under it, and `reads` says that it makes the same
record of that. Records within records come first.

# What is good

JSON has no form for floats that are not finite; where a record holds floats,
its `Finite` says that all of them are. The free-form fields of an entry have to
be in order, which `FreeFields` says: values of free form are taken over in that
order only. Nothing else is asked of any record.
-/
import HostTelemetry.Host.Snapshot
import HostTelemetry.Container.Usage
import HostTelemetry.Proofs.Json.Written
import HostTelemetry.Service.Entry
import HostTelemetry.Service.Record

namespace HostTelemetry

open Json

-- =============================================================== network

namespace Network

structure Activity.Finite (a : Activity) : Prop where
  download : a.download.isFinite = true
  upload : a.upload.isFinite = true

theorem Activity.toJson_eq (a : Activity) :
    a.toJson = .obj (written ["downloadBytesPerSec", "uploadBytesPerSec", "rxErrors", "rxDrops",
        "txErrors", "txDrops"]
      [some (.ofFloat a.download), some (.ofFloat a.upload), slot 0 .ofUInt64 a.rxErrors,
        slot 0 .ofUInt64 a.rxDrops, slot 0 .ofUInt64 a.txErrors, slot 0 .ofUInt64 a.txDrops]) := by
  simp [toJson]

theorem Activity.Finite.reads {a : Activity} (h : a.Finite) :
    Activity.ofJson? a.toJson = some a := by
  rw [toJson_eq, ofJson?, bind_slots?_written (by decide) rfl]
  simp only [required?_some, asFloat?_ofFloat h.download, asFloat?_ofFloat h.upload,
    orElse?_slot 0 (asUInt64?_ofUInt64 _)]
  rfl

structure Report.Finite (r : Report) : Prop where
  physical : r.physical.Finite
  virtualSide : ∀ v ∈ r.virtualSide, v.Finite

theorem Report.toJson_eq (r : Report) :
    r.toJson = .obj (written ["physical", "virtual"]
      [some r.physical.toJson, r.virtualSide.map Activity.toJson]) := by
  simp [toJson]

theorem Report.Finite.reads {r : Report} (h : r.Finite) : Report.ofJson? r.toJson = some r := by
  have hvirtual : ∀ v ∈ r.virtualSide, Activity.ofJson? v.toJson = some v ∧ v.toJson ≠ .null :=
    fun v hv => ⟨(h.virtualSide v hv).reads, Json.noConfusion⟩
  rw [toJson_eq, ofJson?, bind_slots?_written (by decide) rfl]
  simp only [required?_some, h.physical.reads, orElse?_map hvirtual]
  rfl

end Network

-- ============================================================= processes

namespace Proc

structure Usage.Finite (u : Usage) : Prop where
  cpuPercent : u.cpuPercent.isFinite = true
  memoryMB : u.memoryMB.isFinite = true
  memoryPercent : u.memoryPercent.isFinite = true

theorem Usage.toJson_eq (u : Usage) :
    u.toJson = .obj (written ["pid", "name", "cpuPercent", "memoryMB", "memoryPercent", "command",
        "user"]
      [some (.int u.pid.toInt), some (.str u.name), some (.ofFloat u.cpuPercent),
        some (.ofFloat u.memoryMB), some (.ofFloat u.memoryPercent), slot "" .str u.command,
        slot "" .str u.user]) := by
  simp [toJson]

theorem Usage.Finite.reads {u : Usage} (h : u.Finite) : Usage.ofJson? u.toJson = some u := by
  rw [toJson_eq, ofJson?, bind_slots?_written (by decide) rfl]
  simp only [required?_some, asInt32?_int, asString?_str, asFloat?_ofFloat h.cpuPercent,
    asFloat?_ofFloat h.memoryMB, asFloat?_ofFloat h.memoryPercent,
    orElse?_slot "" (asString?_str _)]
  rfl

end Proc

-- ================================================================= hosts

namespace Host

structure CpuLoad.Finite (c : CpuLoad) : Prop where
  usagePercent : c.usagePercent.isFinite = true
  temperature : c.temperature.isFinite = true

theorem CpuLoad.toJson_eq (c : CpuLoad) :
    c.toJson = .obj (written ["usagePercent", "coreCount", "temperature", "temperatureAvailable"]
      [some (.ofFloat c.usagePercent), some (.ofUInt64 c.coreCount),
        some (.ofFloat c.temperature), some (.bool c.temperatureAvailable)]) := rfl

theorem CpuLoad.Finite.reads {c : CpuLoad} (h : c.Finite) :
    CpuLoad.ofJson? c.toJson = some c := by
  rw [toJson_eq, ofJson?, bind_slots?_written (by decide) rfl]
  simp only [required?_some, asFloat?_ofFloat h.usagePercent, asUInt64?_ofUInt64,
    asFloat?_ofFloat h.temperature, asBool?_bool]
  rfl

theorem Memory.toJson_eq (m : Memory) :
    m.toJson = .obj (written ["usedBytes", "totalBytes"]
      [some (.ofUInt64 m.used), some (.ofUInt64 m.total)]) := rfl

theorem Memory.reads (m : Memory) : Memory.ofJson? m.toJson = some m := by
  rw [toJson_eq, ofJson?, bind_slots?_written (by decide) rfl]
  simp only [required?_some, asUInt64?_ofUInt64]
  rfl

theorem Disk.toJson_eq (d : Disk) :
    d.toJson = .obj (written ["mountPoint", "device", "fsType", "usedBytes", "totalBytes"]
      [some (.str d.mountPoint), some (.str d.device), some (.str d.fsType),
        some (.ofUInt64 d.used), some (.ofUInt64 d.total)]) := rfl

theorem Disk.reads (d : Disk) : Disk.ofJson? d.toJson = some d := by
  rw [toJson_eq, ofJson?, bind_slots?_written (by decide) rfl]
  simp only [required?_some, asString?_str, asUInt64?_ofUInt64]
  rfl

structure Snapshot.Finite (s : Snapshot) : Prop where
  cpu : s.cpu.Finite
  network : s.network.Finite

theorem Snapshot.toJson_eq (s : Snapshot) :
    s.toJson = .obj (written ["cpu", "memory", "disks", "network", "uptimeSeconds"]
      [some s.cpu.toJson, some s.memory.toJson, some (.arr (s.disks.map Disk.toJson)),
        some s.network.toJson, some (.ofUInt64 s.uptime)]) := rfl

theorem Snapshot.Finite.reads {s : Snapshot} (h : s.Finite) :
    Snapshot.ofJson? s.toJson = some s := by
  rw [toJson_eq, ofJson?, bind_slots?_written (by decide) rfl]
  simp only [required?_some, h.cpu.reads, Memory.reads, asList?_map fun d _ => Disk.reads d,
    h.network.reads, asUInt64?_ofUInt64]
  rfl

structure Event.Finite (e : Event) : Prop where
  system : e.system.Finite
  processes : ∀ u ∈ e.processes, u.Finite

theorem Event.toJson_eq (e : Event) :
    e.toJson = .obj (written ["system", "processes"]
      [some e.system.toJson, some (.arr (e.processes.map Proc.Usage.toJson))]) := rfl

theorem Event.Finite.reads {e : Event} (h : e.Finite) : Event.ofJson? e.toJson = some e := by
  rw [toJson_eq, ofJson?, bind_slots?_written (by decide) rfl]
  simp only [required?_some, h.system.reads, asList?_map fun u hu => (h.processes u hu).reads]
  rfl

end Host

-- ============================================================ containers

namespace Container

theorem State.reads (s : State) : State.ofJson? s.toJson = some s := by
  cases s <;> rfl

theorem Port.toJson_eq (p : Port) :
    p.toJson = .obj (written ["hostPort", "containerPort", "protocol"]
      [some (.ofUInt16 p.host), some (.ofUInt16 p.container), some (.str p.protocol)]) := rfl

theorem Port.reads (p : Port) : Port.ofJson? p.toJson = some p := by
  rw [toJson_eq, ofJson?, bind_slots?_written (by decide) rfl]
  simp only [required?_some, asUInt16?_ofUInt16, asString?_str]
  rfl

structure Usage.Finite (u : Usage) : Prop where
  cpuPercent : u.cpuPercent.isFinite = true
  memoryUsageMB : u.memoryUsageMB.isFinite = true
  memoryLimitMB : u.memoryLimitMB.isFinite = true

theorem Usage.toJson_eq (u : Usage) :
    u.toJson = .obj (written ["id", "name", "image", "status", "cpuPercent", "memoryUsageMB",
        "memoryLimitMB", "networkRxBytes", "networkTxBytes", "blockReadBytes", "blockWriteBytes",
        "pids", "startedAt", "ports", "restartCount", "healthStatus"]
      [some (.str u.id), some (.str u.name), some (.str u.image), some u.status.toJson,
        some (.ofFloat u.cpuPercent), some (.ofFloat u.memoryUsageMB),
        some (.ofFloat u.memoryLimitMB), some (.ofUInt64 u.networkRx),
        some (.ofUInt64 u.networkTx), some (.ofUInt64 u.blockRead), some (.ofUInt64 u.blockWrite),
        some (.ofUInt64 u.pids), some (.str u.startedAt), some (.arr (u.ports.map Port.toJson)),
        some (.int u.restartCount.toInt), some (.str u.healthStatus)]) := rfl

theorem Usage.Finite.reads {u : Usage} (h : u.Finite) : Usage.ofJson? u.toJson = some u := by
  rw [toJson_eq, ofJson?, bind_slots?_written (by decide) rfl]
  simp only [required?_some, asString?_str, State.reads, asFloat?_ofFloat h.cpuPercent,
    asFloat?_ofFloat h.memoryUsageMB, asFloat?_ofFloat h.memoryLimitMB, asUInt64?_ofUInt64,
    asList?_map fun p _ => Port.reads p, asInt64?_int]
  rfl

end Container

-- ============================================================== services

namespace Service

theorem Record.toJson_eq (r : Record) :
    r.toJson = .obj (written ["pluginId", "name", "icon", "baseUrl", "version", "meta"]
      [some (.str r.pluginId), some (.str r.name), some (.str r.icon), some (.str r.baseUrl),
        some (.str r.version), some (.obj (r.notes.entries.map fun (k, v) => (k, .str v)))]) := rfl

theorem Record.reads (r : Record) : Record.ofJson? r.toJson = some r := by
  rw [toJson_eq, ofJson?, bind_slots?_written (by decide) rfl]
  simp only [required?_some, asString?_str, asDict?_map asString?_str]
  rfl

theorem Status.reads (s : Status) : Status.ofJson? s.toJson = some s := by
  cases s <;> rfl

theorem FigureKind.reads (k : FigureKind) : FigureKind.ofJson? k.toJson = some k := by
  cases k <;> rfl

theorem Figure.toJson_eq (f : Figure) :
    f.toJson = .obj (written ["label", "value", "type"]
      [some (.str f.label), some (.str f.value), some f.kind.toJson]) := rfl

theorem Figure.reads (f : Figure) : Figure.ofJson? f.toJson = some f := by
  rw [toJson_eq, ofJson?, bind_slots?_written (by decide) rfl]
  simp only [required?_some, asString?_str, FigureKind.reads]
  rfl

theorem Entry.toJson_eq (e : Entry) :
    e.toJson = .obj (written ["pluginId", "name", "icon", "status", "summary", "stats", "error",
        "url"]
      [some (.str e.pluginId), some (.str e.name), some (.str e.icon), some e.status.toJson,
        some (.arr (e.summary.map Figure.toJson)), some (.obj e.stats), e.error.map .str,
        some (.str e.url)]) := by
  simp [toJson]

theorem Entry.reads {e : Entry} (h : FreeFields e.stats) : Entry.ofJson? e.toJson = some e := by
  have herror : ∀ s ∈ e.error, Json.asString? (.str s) = some s ∧ Json.str s ≠ .null :=
    fun s _ => ⟨rfl, Json.noConfusion⟩
  rw [toJson_eq, ofJson?, bind_slots?_written (by decide) rfl]
  simp only [required?_some, asString?_str, Status.reads, asList?_map fun f _ => Figure.reads f,
    freeFields?_obj h, orElse?_map herror, orElse?_some]
  rfl

end Service

-- ================================================================= models

/-- Whatever is published or stored, its JSON reads back as it was, and no other
value has the same JSON. What is left out is a counter of zero, an empty command
line or user, a virtual side that is not reported and an error that did not
occur, and no more. -/
theorem models_are_lossless :
    Lossless Network.Activity.Finite Network.Activity.toJson Network.Activity.ofJson? ∧
    Lossless Network.Report.Finite Network.Report.toJson Network.Report.ofJson? ∧
    Lossless Host.CpuLoad.Finite Host.CpuLoad.toJson Host.CpuLoad.ofJson? ∧
    Lossless (fun _ => True) Host.Memory.toJson Host.Memory.ofJson? ∧
    Lossless (fun _ => True) Host.Disk.toJson Host.Disk.ofJson? ∧
    Lossless Proc.Usage.Finite Proc.Usage.toJson Proc.Usage.ofJson? ∧
    Lossless Host.Snapshot.Finite Host.Snapshot.toJson Host.Snapshot.ofJson? ∧
    Lossless Host.Event.Finite Host.Event.toJson Host.Event.ofJson? ∧
    Lossless (fun _ => True) Container.Port.toJson Container.Port.ofJson? ∧
    Lossless Container.Usage.Finite Container.Usage.toJson Container.Usage.ofJson? ∧
    Lossless (fun _ => True) Service.Record.toJson Service.Record.ofJson? ∧
    Lossless (fun _ => True) Service.Figure.toJson Service.Figure.ofJson? ∧
    Lossless (fun e => FreeFields e.stats) Service.Entry.toJson Service.Entry.ofJson? ∧
    (∀ a : Network.Activity,
      (a.toJson.field? "rxErrors" = none ↔ a.rxErrors = 0) ∧
      (a.toJson.field? "rxDrops" = none ↔ a.rxDrops = 0) ∧
      (a.toJson.field? "txErrors" = none ↔ a.txErrors = 0) ∧
      (a.toJson.field? "txDrops" = none ↔ a.txDrops = 0)) ∧
    (∀ r : Network.Report, r.toJson.field? "virtual" = none ↔ r.virtualSide = none) ∧
    (∀ u : Proc.Usage,
      (u.toJson.field? "command" = none ↔ u.command = "") ∧
      (u.toJson.field? "user" = none ↔ u.user = "")) ∧
    ∀ e : Service.Entry, e.toJson.field? "error" = none ↔ e.error = none := by
  refine ⟨lossless_of_reads fun _ h => h.reads, lossless_of_reads fun _ h => h.reads,
    lossless_of_reads fun _ h => h.reads, lossless_of_reads fun m _ => m.reads,
    lossless_of_reads fun d _ => d.reads, lossless_of_reads fun _ h => h.reads,
    lossless_of_reads fun _ h => h.reads, lossless_of_reads fun _ h => h.reads,
    lossless_of_reads fun p _ => p.reads, lossless_of_reads fun _ h => h.reads,
    lossless_of_reads fun r _ => r.reads, lossless_of_reads fun f _ => f.reads,
    lossless_of_reads fun _ h => Service.Entry.reads h, fun a => ?_, fun r => ?_, fun u => ?_,
    fun e => ?_⟩
  · rw [a.toJson_eq]
    exact ⟨.trans (field?_written_eq_none_iff (by decide) 2 rfl rfl) slot_eq_none_iff,
      .trans (field?_written_eq_none_iff (by decide) 3 rfl rfl) slot_eq_none_iff,
      .trans (field?_written_eq_none_iff (by decide) 4 rfl rfl) slot_eq_none_iff,
      .trans (field?_written_eq_none_iff (by decide) 5 rfl rfl) slot_eq_none_iff⟩
  · rw [r.toJson_eq]
    exact .trans (field?_written_eq_none_iff (by decide) 1 rfl rfl) Option.map_eq_none_iff
  · rw [u.toJson_eq]
    exact ⟨.trans (field?_written_eq_none_iff (by decide) 5 rfl rfl) slot_eq_none_iff,
      .trans (field?_written_eq_none_iff (by decide) 6 rfl rfl) slot_eq_none_iff⟩
  · rw [e.toJson_eq]
    exact .trans (field?_written_eq_none_iff (by decide) 6 rfl rfl) Option.map_eq_none_iff

end HostTelemetry
