/-
Runs of a sampler: what it is given at each tick, where it gets to, and
the events that it publishes on the way.
-/
import HostTelemetry.Host.Sampler
import HostTelemetry.Proofs.Runs

namespace HostTelemetry.Host

open Proc (Scanned)

/-- What a tick is given: what the kernel shows, the processes, what can be
read at any moment, and the moment. -/
structure Beat where
  kernel : KernelView := {}
  scan : List Scanned := []
  point : PointView := {}
  moment : Nat

namespace Sampler

/-- The sampler after a tick. -/
def after (s : Sampler) (b : Beat) : Sampler :=
  (s.tick b.kernel b.scan b.point b.moment).2

/-- The event of a tick. -/
def event (s : Sampler) (b : Beat) : Event :=
  (s.tick b.kernel b.scan b.point b.moment).1

/-- The sampler after some ticks. -/
def run (s : Sampler) (beats : List Beat) : Sampler := go (fun b s => s.after b) beats s

/-- The events that a sampler publishes. -/
def events (s : Sampler) (beats : List Beat) : List Event :=
  along (fun b s => s.after b) (fun b s => [s.event b]) beats s

end Sampler

theorem run_append (s : Sampler) (l m : List Beat) : s.run (l ++ m) = (s.run l).run m :=
  go_append _ l m s

theorem events_cons (s : Sampler) (b : Beat) (rest : List Beat) :
    s.events (b :: rest) = s.event b :: (s.after b).events rest := rfl

end HostTelemetry.Host
