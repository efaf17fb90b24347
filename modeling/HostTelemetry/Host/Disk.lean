/-
Disks, and which of the mounted file systems of a host are reported as
such: those on a device, the first mount of each, and none that are small.
The first mount of a device stands for it even when it is too small to be
reported.
-/
import HostTelemetry.Json.Decode

namespace HostTelemetry.Host

open Json (required? asString? asUInt64? slots?)

/-- A mounted file system. -/
structure Disk where
  /-- Where it is mounted. -/
  mountPoint : String
  device : String
  fsType : String
  /-- The bytes in use. -/
  used : UInt64
  /-- The bytes that it can hold. -/
  total : UInt64
deriving DecidableEq, Inhabited

/-- The disk in JSON. -/
def Disk.toJson (d : Disk) : Json :=
  .obj [("mountPoint", .str d.mountPoint), ("device", .str d.device),
    ("fsType", .str d.fsType), ("usedBytes", .ofUInt64 d.used),
    ("totalBytes", .ofUInt64 d.total)]

/-- Reads a disk. -/
def Disk.ofJson? (j : Json) : Option Disk := do
  match ← slots? ["mountPoint", "device", "fsType", "usedBytes", "totalBytes"] j with
  | [mountPoint, device, fsType, used, total] =>
    return {
      mountPoint := ← required? asString? mountPoint
      device := ← required? asString? device
      fsType := ← required? asString? fsType
      used := ← required? asUInt64? used
      total := ← required? asUInt64? total }
  | _ => none

-- ============================================================= selection

/-- The kinds of file system that hold nothing of their own. -/
def pseudoFileSystems : List String :=
  ["tmpfs", "devtmpfs", "sysfs", "proc", "cgroup", "cgroup2", "overlay", "nsfs", "fuse.lxcfs",
   "squashfs", "devpts", "securityfs", "pstore", "efivarfs", "bpf", "tracefs", "debugfs",
   "hugetlbfs", "mqueue", "configfs", "fusectl", "autofs", "ramfs", "rpc_pipefs", "nfsd",
   "fuse.gvfsd-fuse"]

/-- The least size of a disk that is reported. -/
def minDiskBytes : UInt64 := 50 * 1024 * 1024

/-- Whether the file system is on a device. -/
def Disk.onDevice (d : Disk) : Bool :=
  !pseudoFileSystems.contains d.fsType && d.device.toList.head? = some '/'

/-- The mounts whose device occurs neither in `seen` nor in an earlier
mount. -/
def firstMounts (seen : List String) : List Disk → List Disk
  | [] => []
  | d :: r =>
    if seen.contains d.device then firstMounts seen r
    else d :: firstMounts (d.device :: seen) r

/-- The mounts that are reported, by mount point; mounts at one point keep
their order. -/
def selectDisks (mounts : List Disk) : List Disk :=
  ((firstMounts [] (mounts.filter Disk.onDevice)).filter (minDiskBytes ≤ ·.total)).mergeSort
    fun a b => a.mountPoint ≤ b.mountPoint

end HostTelemetry.Host
