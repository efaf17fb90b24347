/-
The shapes of what a container engine answers: the list of containers, the
statistics of one, and the inspection of one. The shapes are complete, since
an answer with a field of another shape is no answer, also where the field
is of no interest here.
-/
import HostTelemetry.Json.Shape

namespace HostTelemetry.Container.Shapes

open Json (Shape)
open Json.Shape (each optional)

-- =============================================================== scalars

/-- An integer of 64 bits. -/
def integer : Shape := .int Text.minI64 Text.maxI64

/-- An unsigned number of 64 bits. -/
def counter : Shape := .int 0 Text.maxU64

/-- An unsigned number of 32 bits. -/
def number32 : Shape := .int 0 0xFFFFFFFF

/-- An unsigned number of 16 bits. -/
def number16 : Shape := .int 0 Text.maxU16

/-- A list of texts. -/
def texts : Shape := .list .text

/-- Texts by name. -/
def labels : Shape := .dict .text

-- ================================================================= words

/-- The words for the state of a container. -/
def stateWords : List String :=
  ["", "created", "running", "paused", "restarting", "exited", "removing", "dead", "stopping"]

/-- The words for the health of a container. -/
def healthWords : List String := ["", "none", "starting", "healthy", "unhealthy"]

/-- The words for a protocol. -/
def protocolWords : List String := ["", "tcp", "udp", "sctp"]

-- ================================================================= parts

/-- A port of a container, with the port of the host if there is one. The
protocol has to be there, and may be `null`. -/
def port : Shape :=
  .record [("IP", false, .text), ("PrivatePort", true, number16), ("PublicPort", false, number16),
    ("Type", true, .nullable (.oneOf protocolWords))]

/-- A port of the host that is bound to a port of a container. -/
def binding : Shape := optional (each .text ["HostIp", "HostPort"])

/-- The bindings of all ports. -/
def portMap : Shape := .dict (.nullable (.list binding))

/-- The platform of an image. -/
def platform : Shape :=
  optional [("architecture", .text), ("os", .text), ("os.version", .text),
    ("os.features", texts), ("variant", .text)]

/-- What describes an image. -/
def descriptor : Shape :=
  optional [("mediaType", .text), ("digest", .text), ("size", integer), ("urls", texts),
    ("annotations", labels), ("data", .text), ("platform", platform), ("artifactType", .text)]

/-- A mount inside a container. -/
def mountPoint : Shape :=
  optional ([("Type", .anything)] ++ each .text ["Name", "Source", "Destination", "Driver", "Mode"]
    ++ [("RW", .truth), ("Propagation", .text)])

/-- The connection of a container to a network. -/
def endpoint : Shape :=
  optional [
    ("IPAMConfig", optional [("IPv4Address", .text), ("IPv6Address", .text),
      ("LinkLocalIPs", texts)]),
    ("Links", texts), ("MacAddress", .text), ("Aliases", texts), ("DriverOpts", labels),
    ("GwPriority", integer), ("NetworkID", .text), ("EndpointID", .text), ("Gateway", .text),
    ("IPAddress", .text), ("IPPrefixLen", integer), ("IPv6Gateway", .text),
    ("GlobalIPv6Address", .text), ("GlobalIPv6PrefixLen", integer), ("DNSNames", texts)]

-- ================================================================== list

/-- A container in the list. -/
def summary : Shape :=
  optional [("Id", .text), ("Names", texts), ("Image", .text), ("ImageID", .text),
    ("ImageManifestDescriptor", descriptor), ("Command", .text), ("Created", integer),
    ("Ports", .list port), ("SizeRw", integer), ("SizeRootFs", integer), ("Labels", labels),
    ("State", .named stateWords), ("Status", .text),
    ("HostConfig", optional [("NetworkMode", .text), ("Annotations", labels)]),
    ("NetworkSettings", optional [("Networks", .dict endpoint)]),
    ("Mounts", .list mountPoint),
    ("Health", optional [("Status", .named healthWords), ("FailingStreak", integer)])]

-- ============================================================ statistics

/-- The counters of processor time. -/
def cpu : Shape :=
  optional [
    ("cpu_usage", optional [("total_usage", counter), ("percpu_usage", .list counter),
      ("usage_in_kernelmode", counter), ("usage_in_usermode", counter)]),
    ("system_cpu_usage", counter), ("online_cpus", number32),
    ("throttling_data", optional (each counter ["periods", "throttled_periods",
      "throttled_time"]))]

/-- The use of memory. -/
def memory : Shape :=
  optional [("usage", counter), ("max_usage", counter), ("stats", .dict counter),
    ("failcnt", counter), ("limit", counter), ("commitbytes", counter),
    ("commitpeakbytes", counter), ("privateworkingset", counter)]

/-- The counters of a network. -/
def network : Shape :=
  optional (each counter ["rx_bytes", "rx_packets", "rx_errors", "rx_dropped", "tx_bytes",
    "tx_packets", "tx_errors", "tx_dropped"] ++ each .text ["endpoint_id", "instance_id"])

/-- One kind of access to disks. -/
def blockAccess : Shape :=
  optional [("major", counter), ("minor", counter), ("op", .text), ("value", counter)]

/-- The accesses to disks. -/
def blockAccesses : Shape :=
  optional (each (.list blockAccess) ["io_service_bytes_recursive", "io_serviced_recursive",
    "io_queue_recursive", "io_service_time_recursive", "io_wait_time_recursive",
    "io_merged_recursive", "io_time_recursive", "sectors_recursive"])

/-- The statistics of a container. -/
def statistics : Shape :=
  optional [("id", .text), ("name", .text), ("os_type", .text), ("read", .text), ("cpu_stats", cpu),
    ("memory_stats", memory), ("networks", .dict network),
    ("pids_stats", optional (each counter ["current", "limit"])), ("blkio_stats", blockAccesses),
    ("num_procs", number32),
    ("storage_stats", optional (each counter ["read_count_normalized", "read_size_bytes",
      "write_count_normalized", "write_size_bytes"])),
    ("preread", .text), ("precpu_stats", cpu)]

-- ============================================================ inspection

/-- The health of a container and the checks of it. -/
def health : Shape :=
  optional [("Status", .named healthWords), ("FailingStreak", integer),
    ("Log", .list (optional [("Start", .text), ("End", .text), ("ExitCode", integer),
      ("Output", .text)]))]

/-- The state of a container. -/
def state : Shape :=
  optional ([("Status", .named stateWords)]
    ++ each .truth ["Running", "Paused", "Restarting", "OOMKilled", "Dead"]
    ++ each integer ["Pid", "ExitCode"] ++ each .text ["Error", "StartedAt", "FinishedAt"]
    ++ [("Health", health)])

/-- A limit of the speed of a device. -/
def throttle : Shape := optional [("Path", .text), ("Rate", integer)]

/-- The resources that a container may use. -/
def resources : List (String × Shape) :=
  [("CpuShares", integer), ("Memory", integer), ("CgroupParent", .text),
    ("BlkioWeight", number16),
    ("BlkioWeightDevice", .list (optional [("Path", .text), ("Weight", counter)]))]
  ++ each (.list throttle) ["BlkioDeviceReadBps", "BlkioDeviceWriteBps", "BlkioDeviceReadIOps",
    "BlkioDeviceWriteIOps"]
  ++ each integer ["CpuPeriod", "CpuQuota", "CpuRealtimePeriod", "CpuRealtimeRuntime"]
  ++ each .text ["CpusetCpus", "CpusetMems"]
  ++ [("Devices", .list (optional (each .text ["PathOnHost", "PathInContainer",
      "CgroupPermissions"]))),
    ("DeviceCgroupRules", texts),
    ("DeviceRequests", .list (optional [("Driver", .text), ("Count", integer),
      ("DeviceIDs", texts), ("Capabilities", .list texts), ("Options", labels)]))]
  ++ each integer ["KernelMemoryTCP", "MemoryReservation", "MemorySwap", "MemorySwappiness",
    "NanoCpus"]
  ++ each .truth ["OomKillDisable", "Init"]
  ++ [("PidsLimit", integer),
    ("Ulimits", .list (optional [("Name", .text), ("Soft", integer), ("Hard", integer)]))]
  ++ each integer ["CpuCount", "CpuPercent", "IOMaximumIOps", "IOMaximumBandwidth"]

/-- A mount that a container was made with. -/
def mount : Shape :=
  optional [("Target", .text), ("Source", .text), ("Type", .anything), ("ReadOnly", .truth),
    ("Consistency", .text),
    ("BindOptions", optional ([("Propagation",
        .named ["", "private", "rprivate", "shared", "rshared", "slave", "rslave"])]
      ++ each .truth ["NonRecursive", "CreateMountpoint", "ReadOnlyNonRecursive",
        "ReadOnlyForceRecursive"])),
    ("VolumeOptions", optional [("NoCopy", .truth), ("Labels", labels),
      ("DriverConfig", optional [("Name", .text), ("Options", labels)]), ("Subpath", .text)]),
    ("ImageOptions", optional [("Subpath", .text)]),
    ("TmpfsOptions", optional [("SizeBytes", integer), ("Mode", integer),
      ("Options", .list texts)])]

/-- How a container is run on its host. -/
def hostConfig : Shape :=
  optional (resources
    ++ [("Binds", texts), ("ContainerIDFile", .text),
      ("LogConfig", optional [("Type", .text), ("Config", labels)]), ("NetworkMode", .text),
      ("PortBindings", portMap),
      ("RestartPolicy", optional [
        ("Name", .named ["", "no", "always", "unless-stopped", "on-failure"]),
        ("MaximumRetryCount", integer)]),
      ("AutoRemove", .truth), ("VolumeDriver", .text), ("VolumesFrom", texts),
      ("Mounts", .list mount), ("ConsoleSize", .list integer), ("Annotations", labels)]
    ++ each texts ["CapAdd", "CapDrop"]
    ++ [("CgroupnsMode", .named ["", "private", "host"])]
    ++ each texts ["Dns", "DnsOptions", "DnsSearch", "ExtraHosts", "GroupAdd"]
    ++ [("IpcMode", .text), ("Cgroup", .text), ("Links", texts), ("OomScoreAdj", integer),
      ("PidMode", .text), ("Privileged", .truth), ("PublishAllPorts", .truth),
      ("ReadonlyRootfs", .truth), ("SecurityOpt", texts), ("StorageOpt", labels),
      ("Tmpfs", labels), ("UTSMode", .text), ("UsernsMode", .text), ("ShmSize", integer),
      ("Sysctls", labels), ("Runtime", .text),
      ("Isolation", .named ["", "default", "process", "hyperv"]), ("MaskedPaths", texts),
      ("ReadonlyPaths", texts)])

/-- What a container runs. -/
def config : Shape :=
  optional (each .text ["Hostname", "Domainname", "User"]
    ++ each .truth ["AttachStdin", "AttachStdout", "AttachStderr"]
    ++ [("ExposedPorts", .dict .anything)]
    ++ each .truth ["Tty", "OpenStdin", "StdinOnce"]
    ++ [("Env", texts), ("Cmd", texts),
      ("Healthcheck", optional ([("Test", texts)]
        ++ each integer ["Interval", "Timeout", "Retries", "StartPeriod", "StartInterval"])),
      ("ArgsEscaped", .truth), ("Image", .text), ("Volumes", .dict .anything),
      ("WorkingDir", .text), ("Entrypoint", texts), ("NetworkDisabled", .truth),
      ("OnBuild", texts), ("Labels", labels), ("StopSignal", .text), ("StopTimeout", integer),
      ("Shell", texts)])

/-- The inspection of a container. -/
def inspection : Shape :=
  optional ([("Id", .text), ("Created", .text), ("Path", .text), ("Args", texts), ("State", state)]
    ++ each .text ["Image", "ResolvConfPath", "HostnamePath", "HostsPath", "LogPath", "Name"]
    ++ [("RestartCount", integer), ("Driver", .text), ("Platform", .text),
      ("ImageManifestDescriptor", descriptor)]
    ++ each .text ["MountLabel", "ProcessLabel", "AppArmorProfile"]
    ++ [("ExecIDs", texts), ("HostConfig", hostConfig),
      ("GraphDriver", .record [("Name", true, .text), ("Data", true, labels)]),
      ("Storage", optional [("RootFS", optional [("Snapshot", optional [("Name", .text)])])]),
      ("SizeRw", integer), ("SizeRootFs", integer), ("Mounts", .list mountPoint),
      ("Config", config),
      ("NetworkSettings", optional [("SandboxID", .text), ("SandboxKey", .text),
        ("Ports", portMap), ("Networks", .dict endpoint)])])

end HostTelemetry.Container.Shapes
