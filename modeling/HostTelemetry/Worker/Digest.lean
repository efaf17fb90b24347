/-
The lines that sum up what was published last: how many containers there
are and run, and how many services there are and fail.
-/
import HostTelemetry.Container.Usage
import HostTelemetry.Service.Entry
import HostTelemetry.Worker.Timer

namespace HostTelemetry.Worker

open Service (Entry)

/-- A line. -/
structure Digest where
  moment : Nat
  containersRunning : Nat
  containersTotal : Nat
  services : Nat
  /-- The services that do not run well. -/
  servicesFailing : Nat
deriving DecidableEq, Repr, Inhabited

/-- The line at a moment, for what was published last. -/
def Digest.of (moment : Nat) (containers : List Container.Usage) (services : List Entry) :
    Digest where
  moment := moment
  containersRunning := (containers.filter (·.status = .running)).length
  containersTotal := containers.length
  services := services.length
  servicesFailing := (services.filter (·.status ≠ .running)).length

/-- What was published last at a moment. -/
def latest {α : Type} (moment : Nat) (published : List (Nat × List α)) : List α :=
  (((published.filter (·.1 ≤ moment)).getLast?).map (·.2)).getD []

/-- The lines that a timer writes up to the end. -/
def digests (timer : Timer) (stop : Nat) (containers : List (Nat × List Container.Usage))
    (services : List (Nat × List Entry)) : List Digest :=
  (timer.moments stop).map fun m => Digest.of m (latest m containers) (latest m services)

end HostTelemetry.Worker
