/-
What a sampler publishes where interfaces come, go or start anew between two
ticks.

A tick compares the sums of a class and not its interfaces. The sums have 64
bits. Where they are exact, what the tick publishes is the difference that
`Network.shown_account` balances: what the interfaces that stay have grown,
together with all that new ones have counted before they came, less what
others have fallen back or have taken with them, and nothing if this is below
zero. Where the last two outweigh the first two, traffic is hidden, and where
a new interface has counted something, traffic is invented
(`churn_is_published`). With interfaces that stay and do not start anew it is
what has grown.
-/
import HostTelemetry.Proofs.Host.NetworkAccount
import HostTelemetry.Proofs.Network.Churn

namespace HostTelemetry.Host

open Network (Activity Quantity Sample Side Trouble arrived departed fallen grown rate shown)
open Proc (seconds)

-- ====================================================== the tick before

/-- The text that was read last, at a tick or when the sampler was made. -/
def lastReading (k : KernelView) (beats : List Beat) : Option (List Char) :=
  ((beats.getLast?.map (·.kernel)).getD k).netDev

def lastMoment (moment : Nat) (beats : List Beat) : Nat :=
  (beats.getLast?.map (·.moment)).getD moment

/-- A sampler holds the sums of the text that was read last. -/
theorem net_run {k : KernelView} {beats : List Beat} {text : List Char}
    (h : lastReading k beats = some text) (moment keep otherwise : Nat) :
    ((Sampler.ofView k moment keep otherwise).run beats).net = Sample.ofText text := by
  rcases List.eq_nil_or_concat beats with rfl | ⟨earlier, b, rfl⟩
  · have hk : k.netDev = some text := h
    show Sample.ofReading k.netDev = Sample.ofText text
    rw [hk]
    rfl
  · have hb : b.kernel.netDev = some text := by simpa [lastReading] using h
    rw [List.concat_eq_append, run_append]
    show b.kernel.counters?.getD {} = Sample.ofText text
    rw [KernelView.counters?, hb]
    rfl

theorem moment_run (k : KernelView) (moment keep otherwise : Nat) (beats : List Beat) :
    ((Sampler.ofView k moment keep otherwise).run beats).moment = lastMoment moment beats := by
  rcases List.eq_nil_or_concat beats with rfl | ⟨earlier, b, rfl⟩
  · rfl
  · rw [List.concat_eq_append, run_append]
    simp [lastMoment, Sampler.run, go, moment_after]

-- ============================================================= one tick

/-- The rates of a view are of the differences of the bytes. -/
theorem rates_between (before now : Network.Counters) {secs : Float} (h : 0 < secs) :
    (Activity.between before now secs).download
        = rate secs (now.amount .rxBytes - before.amount .rxBytes) ∧
      (Activity.between before now secs).upload
        = rate secs (now.amount .txBytes - before.amount .txBytes) := by
  rw [Activity.between, if_neg (Network.not_le_zero_of_pos h)]
  exact ⟨rfl, rfl⟩

/-- What a tick publishes of a class, whatever has become of its interfaces
since the reading before.

Every trouble that is published, and every difference behind a rate, is the
difference of what the class shows now and showed before, each as far as 64
bits go. Where they hold both, it is what the interfaces that both readings
list have counted on, and what new ones show, less what has fallen back and
what has gone. It is what has counted on exactly if the new ones make up for
the rest, or if nothing has counted on and they do no more than that. -/
theorem churn_account (k : KernelView) (moment keep otherwise : Nat) (beats : List Beat)
    (b : Beat) {before now : List Char} (hbefore : lastReading k beats = some before)
    (hnow : b.kernel.netDev = some now)
    (htime : 0 < seconds (b.moment - lastMoment moment beats)) :
    let s := (Sampler.ofView k moment keep otherwise).run beats
    let secs := seconds (b.moment - lastMoment moment beats)
    let difference := fun sd q => shown sd q now % 2 ^ 64 - shown sd q before % 2 ^ 64
    ∀ sd, (∀ t, ((s.event b).system.network.of sd).of t = difference sd (.trouble t)) ∧
      ((s.after b).view.of sd).download = rate secs (difference sd .rxBytes) ∧
      ((s.after b).view.of sd).upload = rate secs (difference sd .txBytes) ∧
      ∀ q, shown sd q before < 2 ^ 64 → shown sd q now < 2 ^ 64 →
        difference sd q = grown sd q before now + arrived sd q before now
          - (fallen sd q before now + departed sd q before now) ∧
        (difference sd q = grown sd q before now ↔
          arrived sd q before now = fallen sd q before now + departed sd q before now ∨
            (grown sd q before now = 0 ∧
              arrived sd q before now ≤ fallen sd q before now + departed sd q before now)) := by
  intro s secs difference sd
  have hsums : ∀ q, ((Sample.ofText now).of sd).amount q
      - ((Sample.ofText before).of sd).amount q = difference sd q := by
    intro q
    rw [Network.amount_ofText, Network.amount_ofText]
  have hview : (s.after b).view.of sd
      = Activity.between ((Sample.ofText before).of sd) ((Sample.ofText now).of sd) secs := by
    have hreading : b.kernel.counters?.getD {} = Sample.ofText now := by
      rw [KernelView.counters?, hnow]
      rfl
    rw [view_after, moment_run, if_pos htime, net_run hbefore, hreading]
  obtain ⟨hdownload, hupload⟩ :=
    rates_between ((Sample.ofText before).of sd) ((Sample.ofText now).of sd) htime
  refine ⟨fun t => ?_, ?_, ?_, fun q hfit hfit' => ?_⟩
  · rw [of_event, hview, Activity.of_between htime]
    exact hsums (.trouble t)
  · rw [hview, hdownload, hsums]
  · rw [hview, hupload, hsums]
  · have hnet : difference sd q = Network.net sd q before now := by
      rw [← Network.shown_sub, ← Nat.mod_eq_of_lt hfit, ← Nat.mod_eq_of_lt hfit']
    rw [hnet]
    exact ⟨rfl, Network.net_eq_grown_iff sd q before now⟩

-- ===================================================== readings compared

/-- A text that lists interfaces and the errors that they have counted. -/
def errorTable (rows : List (String × Nat)) : List Char :=
  rows.flatMap fun (name, errors) => s!"{name}: 0 0 {errors} 0 0 0 0 0 0 0 0 0\n".toList

/-- A second after the sampler is made, one interface has gone, one has come,
and one has counted on. -/
theorem exchanged_interface_is_published :
    let before := errorTable [("eth0", 5), ("eth1", 4)]
    let now := errorTable [("eth0", 12), ("wlan0", 3)]
    let b : Beat := { kernel := { netDev := some now }, moment := 1000000000 }
    let s := Sampler.ofView { netDev := some before } 0 1 1
    lastReading { netDev := some before } [] = some before ∧ b.kernel.netDev = some now ∧
      0 < seconds (b.moment - lastMoment 0 []) ∧
      shown .physical (.trouble .rxErrors) before = 9 ∧
      shown .physical (.trouble .rxErrors) now = 15 ∧
      grown .physical (.trouble .rxErrors) before now = 7 ∧
      ((s.event b).system.network.of .physical).of .rxErrors = 7 + 3 - (0 + 4) := by
  intro before now b s
  have htime : 0 < seconds (b.moment - lastMoment 0 []) := by decide +kernel
  have hbefore : shown .physical (.trouble .rxErrors) before = 9 := by decide +kernel
  have hnow : shown .physical (.trouble .rxErrors) now = 15 := by decide +kernel
  obtain ⟨htroubles, -, -, hexact⟩ :=
    churn_account { netDev := some before } 0 1 1 [] b rfl rfl htime .physical
  obtain ⟨hnet, -⟩ := hexact (.trouble .rxErrors) (by rw [hbefore]; decide) (by rw [hnow]; decide)
  refine ⟨rfl, rfl, htime, hbefore, hnow, by decide +kernel,
    (htroubles .rxErrors).trans (hnet.trans ?_)⟩
  decide +kernel

/-- An interface counts on by seven. One that goes meanwhile, or starts anew,
hides this, and one that comes is published with all that it has counted. Where
the sum of the first reading is beyond 64 bits, an interface that has fallen
back is published too. -/
theorem churn_is_published :
    let shown := fun before now => published .physical .rxErrors
      ((Sampler.ofView { netDev := some (errorTable before) } 0 1 1).events
        [{ kernel := { netDev := some (errorTable now) }, moment := 1000000000 }])
    let counted := fun before now =>
      grown .physical (.trouble .rxErrors) (errorTable before) (errorTable now)
    let alone := [("eth0", 12)]
    let beside := [("eth0", 5), ("eth1", 100)]
    (counted beside alone = 7 ∧ shown beside alone = 0) ∧
      (counted beside [("eth0", 12), ("eth1", 3)] = 7 ∧
        shown beside [("eth0", 12), ("eth1", 3)] = 0) ∧
      (counted [("eth0", 5)] [("eth0", 12), ("eth1", 100)] = 7 ∧
        shown [("eth0", 5)] [("eth0", 12), ("eth1", 100)] = 107) ∧
      (counted [("eth0", 2 ^ 64 - 1), ("eth1", 1)] [("eth0", 5)] = 0 ∧
        shown [("eth0", 2 ^ 64 - 1), ("eth1", 1)] [("eth0", 5)] = 5) := by
  decide +kernel

end HostTelemetry.Host
