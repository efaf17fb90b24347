/-
The temperature of a host: the highest finite reading of its sensors, in
degrees with one decimal place. Readings are floats of 32 bits.
-/
import HostTelemetry.Number.Dyadic

namespace HostTelemetry.Host

/-- The highest reading that is a number, the later of equal ones. -/
def highest? (readings : List (Option Float32)) : Option Float32 :=
  ((readings.filterMap id).filter (·.isFinite)).foldl
    (fun highest t => some (match highest with
      | some h => if h > t then h else t
      | none => t))
    none

/-- The temperature to report, if a sensor gave one. -/
def temperature? (readings : List (Option Float32)) : Option Float :=
  (highest? readings).map fun t => Number.round1 t.toFloat

end HostTelemetry.Host
