/-
What processes use over time. The processor share of a process is taken
between two scans and smoothed from scan to scan; a process that a scan
does not show is forgotten.

The heaviest processes are ranked by score. Neighbours whose scores are
nearly the same stand in the order of their numbers, so that the ranking
does not flicker; one pass over the sorted list brings this about as far
as it goes.
-/
import HostTelemetry.Dict
import HostTelemetry.Number.Dyadic
import HostTelemetry.Proc.Usage

namespace HostTelemetry.Proc

open Number (clamp orderKey round2)

-- ============================================================== figures

/-- The seconds in a span of billionths of a second. -/
def seconds (nanos : Nat) : Float :=
  Float.ofNat (nanos / 1000000000) + Float.ofNat (nanos % 1000000000) / 1000000000

/-- The share of all cores that a process used between two readings of its
processor time in milliseconds, in percent. -/
def rawCpu (before now : Nat) (secs : Float) (cores : Nat) : Float :=
  if secs ≤ 0 then 0
  else
    let used := Float.ofNat (now - before) / 1000
    clamp 0 100 (used / secs * 100 / Float.ofNat (max cores 1))

/-- The weight of the newest share. -/
def newest : Float := 0.2

/-- The average of the shares so far and a new one; the first stands for
itself. -/
def smooth (average : Option Float) (raw : Float) : Float :=
  match average with
  | some a => newest * raw + (1 - newest) * a
  | none => raw

-- ============================================================== ranking

/-- The difference of scores from which on they are clearly different. -/
def tieThreshold : Float := 0.5

/-- Whether a process stands before another when sorted: the heavier one
does, and of equally heavy ones that with the smaller number. -/
def sortsBefore (a b : Usage) : Bool :=
  let ka := orderKey a.score
  let kb := orderKey b.score
  kb < ka || (ka == kb && a.pid ≤ b.pid)

/-- Whether neighbours change places. -/
def changePlaces (upper lower : Usage) : Bool :=
  (upper.score - lower.score).abs < tieThreshold && lower.pid < upper.pid

/-- One pass over a list, `upper` being the one that was met last. -/
def settlePass (upper : Usage) : List Usage → List Usage
  | [] => [upper]
  | lower :: r =>
    if changePlaces upper lower then lower :: settlePass upper r
    else upper :: settlePass lower r

/-- One pass over a list. -/
def settle : List Usage → List Usage
  | [] => []
  | u :: r => settlePass u r

/-- The processes in their ranking. -/
def rank (processes : List Usage) : List Usage := settle (processes.mergeSort sortsBefore)

theorem settlePass_perm (upper : Usage) (l : List Usage) :
    (settlePass upper l).Perm (upper :: l) := by
  induction l generalizing upper with
  | nil => exact .refl _
  | cons lower r ih =>
    unfold settlePass
    split
    · exact ((ih upper).cons lower).trans (.swap upper lower r)
    · exact (ih lower).cons upper

/-- A ranking has the processes that were ranked. -/
theorem rank_perm (processes : List Usage) : (rank processes).Perm processes := by
  have hsorted := List.mergeSort_perm processes sortsBefore
  unfold rank settle
  split
  next h => exact h ▸ hsorted
  next u r h => exact (settlePass_perm u r).trans (h ▸ hsorted)

-- ============================================================= tracking

/-- A process in a scan. -/
structure Scanned where
  pid : Int32
  name : String
  /-- The processor time that it has used, in milliseconds. -/
  cpuMillis : Nat
  /-- The bytes of its resident memory. -/
  memoryBytes : Nat
  /-- Its command line, if known. -/
  command : String := ""
  /-- The user that runs it, if known. -/
  user : String := ""
deriving DecidableEq, Inhabited

/-- The processor time that a process had used at some moment. -/
structure Reading where
  cpuMillis : Nat
  /-- The moment, in billionths of a second. -/
  moment : Nat
deriving DecidableEq, Inhabited

/-- What is remembered of the processes of the last scan. -/
structure Tracker where
  keep : Nat
  readings : Dict Int Reading := ∅
  /-- The averages of their processor shares. -/
  averages : Dict Int Float := ∅
deriving Inhabited

/-- The number of processes that are remembered. -/
def Tracker.tracked (t : Tracker) : Nat := t.readings.entries.length

/-- The share that a process used since the reading before, if there was one. -/
def shareSince (before : Option Reading) (now : Reading) (cores : Nat) : Float :=
  match before with
  | some r => rawCpu r.cpuMillis now.cpuMillis (seconds (now.moment - r.moment)) cores
  | none => 0

/-- The average of the processor shares of a process that a scan shows. -/
def Tracker.averageOf (t : Tracker) (now cores : Nat) (p : Scanned) : Float :=
  smooth (t.averages.get? p.pid.toInt)
    (shareSince (t.readings.get? p.pid.toInt) ⟨p.cpuMillis, now⟩ cores)

/-- A part of all bytes in percent. -/
def shareOf (bytes total : Nat) : Float :=
  if 0 < total then Float.ofNat bytes / Float.ofNat total * 100 else 0

/-- What a process uses, given the average of its processor shares. -/
def Scanned.usage (p : Scanned) (average : Float) (totalMemory : Nat) : Usage where
  pid := p.pid
  name := p.name
  cpuPercent := round2 average
  memoryMB := round2 (Float.ofNat p.memoryBytes / (1024 * 1024))
  memoryPercent := round2 (shareOf p.memoryBytes totalMemory)
  command := p.command
  user := p.user

/-- Takes over a scan at a moment in billionths of a second, and gives the
heaviest processes. -/
def Tracker.update (t : Tracker) (scan : List Scanned) (now cores totalMemory : Nat) :
    List Usage × Tracker :=
  let averaged := scan.map fun p => (p, t.averageOf now cores p)
  let usages := averaged.map fun (p, average) => p.usage average totalMemory
  ((rank usages).take t.keep,
    { t with
      readings := .ofList (scan.map fun p => (p.pid.toInt, ⟨p.cpuMillis, now⟩))
      averages := .ofList (averaged.map fun (p, average) => (p.pid.toInt, average)) })

end HostTelemetry.Proc
