/-
The kernel's counters of network traffic, summed over the interfaces of a
class, and what they say about the time between two readings. Interfaces
that containers and virtual machines bring along are virtual, all others
are physical, and the loopback is neither. The counters and their sums have
64 bits, and what is beyond them is lost.
-/
import HostTelemetry.Network.Report
import HostTelemetry.Number.Dyadic
import HostTelemetry.Text.Blank

namespace HostTelemetry.Network

-- ============================================================= counters

/-- What a class of interfaces has counted. -/
structure Counters where
  rxBytes : UInt64 := 0
  txBytes : UInt64 := 0
  rxErrors : UInt64 := 0
  /-- Packets dropped on the way in. -/
  rxDrops : UInt64 := 0
  /-- Packets that could not be sent. -/
  txErrors : UInt64 := 0
  /-- Packets dropped on the way out. -/
  txDrops : UInt64 := 0
deriving DecidableEq, Repr, Inhabited

/-- The sum of two classes. -/
def Counters.add (a b : Counters) : Counters where
  rxBytes := a.rxBytes + b.rxBytes
  txBytes := a.txBytes + b.txBytes
  rxErrors := a.rxErrors + b.rxErrors
  rxDrops := a.rxDrops + b.rxDrops
  txErrors := a.txErrors + b.txErrors
  txDrops := a.txDrops + b.txDrops

/-- The counters of both classes. -/
structure Sample where
  physical : Counters := {}
  virtualSide : Counters := {}
deriving DecidableEq, Repr, Inhabited

-- ============================================================== reading

/-- How the names of virtual interfaces begin. -/
def virtualStarts : List String :=
  ["docker", "br-", "veth", "virbr", "lxc", "flannel", "cni", "cali"]

/-- Whether an interface is virtual. -/
def isVirtual (name : List Char) : Bool := virtualStarts.any fun s => s.toList.isPrefixOf name

/-- The counters of an interface, from its fields: eight about what came
in and at least four about what went out. -/
def Counters.ofFields? (fields : List UInt64) : Option Counters :=
  match fields with
  | rxBytes :: _ :: rxErrors :: rxDrops :: _ :: _ :: _ :: _ ::
      txBytes :: _ :: txErrors :: txDrops :: _ =>
    some { rxBytes, txBytes, rxErrors, rxDrops, txErrors, txDrops }
  | _ => none

/-- The interface of a line and its counters: a name, a colon and numbers.
What is no number counts as zero; lines of titles have a bar. -/
def interface? (line : List Char) : Option (List Char × Counters) := do
  guard (!line.contains '|')
  let (name, counts) ← Text.splitFirst? ':' line
  let name := Text.trim name
  guard (name ≠ [] ∧ name ≠ "lo".toList)
  let fields := (Text.words counts).map fun w => (Text.uint64? w).getD 0
  let counters ← Counters.ofFields? fields
  return (name, counters)

/-- The counters with those of one more interface. -/
def Sample.addInterface (s : Sample) (i : List Char × Counters) : Sample :=
  if isVirtual i.1 then { s with virtualSide := s.virtualSide.add i.2 }
  else { s with physical := s.physical.add i.2 }

/-- The counters that the kernel shows. -/
def Sample.ofText (text : List Char) : Sample :=
  ((Text.lines text).filterMap interface?).foldl Sample.addInterface {}

/-- The counters of a reading, all zero if there was nothing to read. -/
def Sample.ofReading (text : Option (List Char)) : Sample := (text.map Sample.ofText).getD {}

-- ============================================================= activity

/-- The bytes in a second, of a number of bytes in so many seconds. -/
def rate (secs : Float) (bytes : Nat) : Float := Number.round2 (Float.ofNat bytes / secs)

/-- What a counter has counted between two readings: nothing if it went
back. -/
def growth (before now : UInt64) : Nat := now.toNat - before.toNat

/-- What happened between two readings that are so many seconds apart. -/
def Activity.between (before now : Counters) (secs : Float) : Activity :=
  if secs ≤ 0 then {}
  else {
    download := rate secs (growth before.rxBytes now.rxBytes)
    upload := rate secs (growth before.txBytes now.txBytes)
    rxErrors := UInt64.ofNat (growth before.rxErrors now.rxErrors)
    rxDrops := UInt64.ofNat (growth before.rxDrops now.rxDrops)
    txErrors := UInt64.ofNat (growth before.txErrors now.txErrors)
    txDrops := UInt64.ofNat (growth before.txDrops now.txDrops) }

end HostTelemetry.Network
