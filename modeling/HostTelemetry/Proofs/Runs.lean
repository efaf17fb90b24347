/-
Runs of a machine, whatever it is: where it gets to, and what is seen on
the way.
-/
import Mathlib.Algebra.Ring.Nat

namespace HostTelemetry

variable {ι σ β : Type}

/-- Takes steps, one after the other. -/
def go (step : ι → σ → σ) : List ι → σ → σ
  | [], s => s
  | i :: rest, s => go step rest (step i s)

/-- One run after the other. -/
theorem go_append (step : ι → σ → σ) (l m : List ι) (s : σ) :
    go step (l ++ m) s = go step m (go step l s) := by
  induction l generalizing s with
  | nil => rfl
  | cons i rest ih => exact ih (step i s)

/-- What is seen of each step of a run, put together. -/
def along (step : ι → σ → σ) (see : ι → σ → List β) : List ι → σ → List β
  | [], _ => []
  | i :: rest, s => see i s ++ along step see rest (step i s)

/-- Of numbers the sum is the sum over the steps. -/
theorem sum_along_cons {step : ι → σ → σ} {see : ι → σ → List Nat} {i : ι} {rest : List ι}
    {s : σ} :
    (along step see (i :: rest) s).sum = (see i s).sum + (along step see rest (step i s)).sum :=
  List.sum_append

end HostTelemetry
