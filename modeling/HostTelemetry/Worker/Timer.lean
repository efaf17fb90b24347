/-
Periodic timers on a clock of milliseconds. A timer is due at multiples of
its period from its first moment on. Who comes late finds the timer due,
and moments that were missed in the meantime are skipped: the next one is
the first multiple that lies ahead. A few milliseconds do not count as
late.

A timer that does not begin at once is due when its period has passed. Where
the clock of the machine cannot hold that moment, there is no such timer.
-/
import HostTelemetry.Http.Session

namespace HostTelemetry.Worker

/-- A periodic timer. -/
structure Timer where
  due : Nat
  /-- The milliseconds from one moment to the next. -/
  period : Nat
deriving DecidableEq, Repr, Inhabited

/-- The milliseconds that do not count as late. -/
def tolerance : Nat := 5

/-- A timer that is due at once. -/
def Timer.immediate (period : Nat) : Timer := ⟨0, period⟩

/-- A timer that is due for the first time after one period. -/
def Timer.delayed (period : Nat) : Timer := ⟨period, period⟩

/-- A timer that is due for the first time after one period, in seconds, if
the clock holds that moment. -/
def Timer.delayedFrom? (now secs : Nat) : Option Timer :=
  (Http.after? now secs).map fun due => ⟨1000 * (due - now), 1000 * secs⟩

/-- The timer after it was served. -/
def Timer.served (now : Nat) (t : Timer) : Timer :=
  { t with due :=
      if t.due + tolerance < now then now + t.period - (now - t.due) % t.period
      else t.due + t.period }

/-- The moments at which a timer is served by somebody who is never late,
up to a last one. -/
def Timer.momentsOn (stop : Nat) : Nat → Timer → List Nat
  | 0, _ => []
  | fuel + 1, t =>
    if t.due ≤ stop then t.due :: Timer.momentsOn stop fuel (t.served t.due) else []

/-- The moments of a timer up to a last one. -/
def Timer.moments (stop : Nat) (t : Timer) : List Nat := t.momentsOn stop (stop + 1)

end HostTelemetry.Worker
