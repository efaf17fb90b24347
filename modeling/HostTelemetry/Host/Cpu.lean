/-
The kernel's counts of processor time, summed over all cores, and the
share of it that was spent working between two readings. The sum of the
counts has 64 bits, and what is beyond them is lost.
-/
import HostTelemetry.Number.Dyadic
import HostTelemetry.Text.Blank
import HostTelemetry.Text.Integer

namespace HostTelemetry.Host

/-- The ticks that the processor has counted. -/
structure CpuTimes where
  total : UInt64
  /-- Those without work. -/
  idle : UInt64
deriving DecidableEq, Repr, Inhabited

/-- Reads the ticks of all cores from the first line that begins with the
name `cpu` and a blank. At least four kinds of ticks must be there, and
the fourth are the idle ones; what is no number counts as zero. -/
def CpuTimes.ofStat? (stat : List Char) : Option CpuTimes := do
  let line ← (Text.lines stat).find? fun l => ("cpu ".toList).isPrefixOf l
  let ticks := ((Text.words line).drop 1).map fun w => (Text.uint64? w).getD 0
  let idle ← ticks[3]?
  return ⟨ticks.foldl (· + ·) 0, idle⟩

/-- Whether a line is about a single core. -/
def isCoreLine (line : List Char) : Bool :=
  match Text.dropStart? "cpu".toList line with
  | some (c :: _) => c.isDigit
  | _ => false

/-- The number of lines about single cores. -/
def coreLines (stat : List Char) : Nat := ((Text.lines stat).filter isCoreLine).length

/-- The number of cores: the one that the kernel shows, or else a given
one, and at least one. -/
def coreCount (stat : Option (List Char)) (otherwise : Nat) : Nat :=
  match stat.map coreLines with
  | none | some 0 => max otherwise 1
  | some n => n

/-- The share of the ticks between two readings that were not idle, in
percent. There is none if no tick was counted, and a count that went back
has counted nothing. -/
def cpuUsage? (before now : CpuTimes) : Option Float :=
  let total := now.total.toNat - before.total.toNat
  if total = 0 then none
  else
    let idle := min (now.idle.toNat - before.idle.toNat) total
    let usage := Float.ofNat (total - idle) / Float.ofNat total * 100
    some (Number.round2 (Number.clamp 0 100 usage))

end HostTelemetry.Host
