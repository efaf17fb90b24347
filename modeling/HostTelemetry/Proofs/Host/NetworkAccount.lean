/-
Runs of the sampler, and what they publish of the network.

# The sampler and the ledger

For each class of interfaces and each trouble the sampler keeps a ledger
without knowing it: its counters are the reading of the tick before, with
zero for one that failed, and its view is what was published then
(`Follows`). So the account of the ledger is an account of every run.

# Failed readings

A failed reading leaves no counters behind, unlike one of the processor
times, which keeps the last that could be read. So the tick after it
publishes the counters from zero on, all that they have counted since the
host started. What is published stays within what was counted only where
nothing had been counted when that happens; `network_account` says so, and
`recovery_is_published` is a run in which it does not.
-/
import HostTelemetry.Proofs.Host.Beats
import HostTelemetry.Proofs.Network.Ledger
import HostTelemetry.Proofs.Network.Rates

namespace HostTelemetry.Host

open Network (Activity Counters Look Past Report Sample Side Trouble)
open Proc (seconds)

-- ============================================================== readings

/-- The counters of the network, if they can be read. -/
def KernelView.counters? (k : KernelView) : Option Sample := k.netDev.map Sample.ofText

/-- The readings of a run, the first when the sampler is made. -/
def readings (k : KernelView) (beats : List Beat) : List (Option Sample) :=
  k.counters? :: beats.map (·.kernel.counters?)

/-- Those that did not fail. -/
def successful (k : KernelView) (beats : List Beat) : List Sample :=
  (readings k beats).filterMap id

/-- The readings that follow right after one that failed. -/
def recovered {α : Type} : List (Option α) → List α
  | [] => []
  | before :: rest =>
    (match before, rest with
      | none, some a :: _ => [a]
      | _, _ => []) ++ recovered rest

/-- Time passes from each tick to the next. -/
def Ticking : Nat → List Beat → Prop
  | _, [] => True
  | moment, b :: rest => 0 < seconds (b.moment - moment) ∧ Ticking b.moment rest

-- ================================================================ ledgers

section Ledger

variable (sd : Side) (t : Trouble)

/-- What a reading shows of a trouble. -/
def troubleOf (r : Option Sample) : Option Nat := r.map fun s => (s.of sd).of t

/-- What a counter sees of a run of ticks. -/
def looks : Nat → List Beat → List Look
  | _, [] => []
  | moment, b :: rest =>
    ⟨decide (0 < seconds (b.moment - moment)), troubleOf sd t b.kernel.counters?⟩
      :: looks b.moment rest

/-- What is behind the first tick. -/
def pastOf (k : KernelView) : Past where
  last := troubleOf sd t k.counters?
  known := troubleOf sd t k.counters?
  shown := 0

/-- For each recovery, what was known of the counter. -/
def forgotten (k : KernelView) (moment : Nat) (beats : List Beat) : List Nat :=
  along Look.next Look.forgotten (looks sd t moment beats) (pastOf sd t k)

/-- What is published once more because no time has passed. -/
def repeated (k : KernelView) (moment : Nat) (beats : List Beat) : List Nat :=
  along Look.next Look.repeated (looks sd t moment beats) (pastOf sd t k)

/-- What is never published because no time has passed. -/
def swallowed (k : KernelView) (moment : Nat) (beats : List Beat) : List Nat :=
  along Look.next Look.swallowed (looks sd t moment beats) (pastOf sd t k)

/-- What is published of a trouble, over all events. -/
def published (events : List Event) : Nat :=
  (events.map fun e => (e.system.network.of sd).of t).sum

/-- A trouble of a class in the first or the last of some readings. -/
def tally (s : Option Sample) : Nat := (troubleOf sd t s).getD 0

end Ledger

-- ============================================================= one tick

/-- What a sampler shows of a class. -/
def TickView.of (v : TickView) : Side → Activity
  | .physical => v.physical
  | .virtual => v.virtualSide

section Tick

variable (s : Sampler) (b : Beat)

theorem net_after : (s.after b).net = b.kernel.counters?.getD {} := rfl

theorem moment_after : (s.after b).moment = b.moment := rfl

/-- The view is of the difference to the tick before, or, if no time has
passed, that of the tick before. -/
theorem view_after (sd : Side) :
    (s.after b).view.of sd
      = if 0 < seconds (b.moment - s.moment) then
          Activity.between (s.net.of sd) ((b.kernel.counters?.getD {}).of sd)
            (seconds (b.moment - s.moment))
        else s.view.of sd := by
  cases sd with
  | physical => rfl
  | virtual => rfl

/-- The event shows every trouble of the view. -/
theorem of_event (sd : Side) (t : Trouble) :
    ((s.event b).system.network.of sd).of t = ((s.after b).view.of sd).of t := by
  cases sd with
  | physical => rfl
  | virtual => exact Report.of_ofSides _ _ t

end Tick

-- ============================================================ simulation

/-- The sampler keeps the ledger of a trouble. -/
structure Follows (sd : Side) (t : Trouble) (s : Sampler) (p : Past) : Prop where
  net : (s.net.of sd).of t = p.last.getD 0
  view : (s.view.of sd).of t = p.shown

theorem of_getD (sd : Side) (t : Trouble) (r : Option Sample) :
    ((r.getD {}).of sd).of t = (troubleOf sd t r).getD 0 := by
  cases r with
  | some s => rfl
  | none =>
    cases sd with
    | physical => cases t <;> rfl
    | virtual => cases t <;> rfl

theorem follows_ofView (sd : Side) (t : Trouble) (k : KernelView) (moment keep otherwise : Nat) :
    Follows sd t (.ofView k moment keep otherwise) (pastOf sd t k) where
  net := of_getD sd t k.counters?
  view := by
    cases sd with
    | physical => cases t <;> rfl
    | virtual => cases t <;> rfl

/-- One tick is one look of the ledger. -/
theorem Follows.after {sd : Side} {t : Trouble} {s : Sampler} {p : Past} (h : Follows sd t s p)
    (b : Beat) :
    Follows sd t (s.after b) (Look.next ⟨decide (0 < seconds (b.moment - s.moment)),
      troubleOf sd t b.kernel.counters?⟩ p) where
  net := of_getD sd t b.kernel.counters?
  view := by
    rw [view_after]
    unfold Look.next Look.grown
    by_cases hlater : 0 < seconds (b.moment - s.moment)
    · rw [if_pos hlater, Activity.of_between hlater, h.net, of_getD]
      simp [hlater]
    · rw [if_neg hlater, h.view]
      simp [hlater]

/-- What a run publishes of a trouble is what the ledger publishes. -/
theorem published_events {sd : Side} {t : Trouble} {beats : List Beat} {s : Sampler} {p : Past}
    (h : Follows sd t s p) :
    published sd t (s.events beats)
      = (along Look.next Look.published (looks sd t s.moment beats) p).sum := by
  induction beats generalizing s p with
  | nil => rfl
  | cons b rest ih =>
    have hafter := h.after b
    have hlater := ih hafter
    have hshown : ((s.event b).system.network.of sd).of t = _ := (of_event s b sd t).trans hafter.view
    rw [events_cons, looks, sum_along_cons]
    unfold published at hlater ⊢
    rw [List.map_cons, List.sum_cons, hlater, hshown, moment_after]
    rfl

-- ===================================================== readings as counts

theorem filterMap_looks (sd : Side) (t : Trouble) (moment : Nat) (beats : List Beat) :
    (looks sd t moment beats).filterMap (·.count)
      = (beats.map (·.kernel.counters?)).filterMap (troubleOf sd t) := by
  induction beats generalizing moment with
  | nil => rfl
  | cons b rest ih =>
    rw [looks, List.map_cons, List.filterMap_cons, List.filterMap_cons, ih]

/-- The ledger sees the readings that did not fail. -/
theorem counts_eq (sd : Side) (t : Trouble) (k : KernelView) (moment : Nat) (beats : List Beat) :
    Network.counts (pastOf sd t k) (looks sd t moment beats)
      = (successful k beats).map fun s => (s.of sd).of t := by
  have hmap : ∀ l : List (Option Sample),
      l.filterMap (troubleOf sd t) = (l.filterMap id).map fun s => (s.of sd).of t := by
    intro l
    rw [List.map_filterMap]
    rfl
  unfold Network.counts successful readings
  rw [filterMap_looks, ← hmap, List.filterMap_cons]
  show (troubleOf sd t k.counters?).toList ++ _ = _
  cases troubleOf sd t k.counters? with
  | none => rfl
  | some n => rfl

theorem later_of_ticking (sd : Side) (t : Trouble) {moment : Nat} {beats : List Beat}
    (h : Ticking moment beats) : ∀ l ∈ looks sd t moment beats, l.later = true := by
  induction beats generalizing moment with
  | nil => nofun
  | cons b rest ih =>
    obtain ⟨hnow, hrest⟩ := h
    exact List.forall_mem_cons.mpr ⟨decide_eq_true hnow, ih hrest⟩

-- ================================================== counters that stand still

/-- The counters of a class are the same whenever they can be read, and a
reading that follows right after one that failed shows none. -/
structure Still (sd : Side) (rs : List (Option Sample)) : Prop where
  same : ∀ a ∈ rs.filterMap id, ∀ b ∈ rs.filterMap id, a.of sd = b.of sd
  zero : ∀ s ∈ recovered rs, s.of sd = {}

theorem Still.tail {sd : Side} {before : Option Sample} {rest : List (Option Sample)}
    (h : Still sd (before :: rest)) : Still sd rest where
  same a ha b hb := by
    have hmem : ∀ c ∈ rest.filterMap id, c ∈ (before :: rest).filterMap id := by
      intro c hc
      obtain ⟨r, hr, heq⟩ := List.mem_filterMap.mp hc
      exact List.mem_filterMap.mpr ⟨r, List.mem_cons_of_mem before hr, heq⟩
    exact h.same a (hmem a ha) b (hmem b hb)
  zero s hs := h.zero s (List.mem_append_right _ hs)

theorem empty_below (c : Counters) : Counters.Below {} c :=
  ⟨UInt64.zero_le, UInt64.zero_le, UInt64.zero_le, UInt64.zero_le, UInt64.zero_le,
    UInt64.zero_le⟩

theorem below_refl (c : Counters) : Counters.Below c c :=
  ⟨UInt64.le_refl _, UInt64.le_refl _, UInt64.le_refl _, UInt64.le_refl _, UInt64.le_refl _,
    UInt64.le_refl _⟩

/-- No counter stands higher than at the tick before. -/
theorem Still.below {sd : Side} {before now : Option Sample} {rest : List (Option Sample)}
    (h : Still sd (before :: now :: rest)) :
    ((now.getD {}).of sd).Below ((before.getD {}).of sd) := by
  have hempty : (({} : Sample).of sd) = {} := by cases sd <;> rfl
  cases now with
  | none =>
    show (({} : Sample).of sd).Below _
    rw [hempty]
    exact empty_below _
  | some c =>
    cases before with
    | none =>
      have hzero : c.of sd = {} := h.zero c (List.mem_append_left _ List.mem_cons_self)
      show (c.of sd).Below _
      rw [hzero]
      exact empty_below _
    | some d =>
      have hsame : c.of sd = d.of sd :=
        h.same c (List.mem_cons_of_mem d List.mem_cons_self) d List.mem_cons_self
      show (c.of sd).Below (d.of sd)
      rw [hsame]
      exact below_refl _

theorem event_of_view {s : Sampler} {b : Beat} {sd : Side} (h : (s.after b).view.of sd = {}) :
    (s.event b).system.network.of sd = {} := by
  cases sd with
  | physical => exact h
  | virtual =>
    have hside : (s.after b).view.virtualSide = {} := h
    show (if (s.after b).view.virtualSide.isIdle then none
      else some (s.after b).view.virtualSide).getD {} = {}
    rw [hside]
    cases ({} : Activity).isIdle with
    | true => rfl
    | false => rfl

/-- Counters that stand still are published as nothing. -/
theorem events_of_still {sd : Side} {beats : List Beat} {s : Sampler} {before : Option Sample}
    (hnet : s.net = before.getD {}) (hview : s.view.of sd = {})
    (h : Still sd (before :: beats.map (·.kernel.counters?))) :
    ∀ e ∈ s.events beats, e.system.network.of sd = {} := by
  induction beats generalizing s before with
  | nil => nofun
  | cons b rest ih =>
    have hafter : (s.after b).view.of sd = {} := by
      rw [view_after, hnet, hview]
      by_cases hlater : 0 < seconds (b.moment - s.moment)
      · rw [if_pos hlater]
        exact Activity.between_of_below hlater h.below
      · rw [if_neg hlater]
    rw [events_cons]
    exact List.forall_mem_cons.mpr
      ⟨event_of_view hafter, ih (net_after s b) hafter h.tail⟩

-- ================================================================ account

/-- What the sampler publishes of the network, in any run in which no
counter falls from one successful reading to the next.

The troubles published are those counted between the first and the last
successful reading, and what was known of the counters whenever a reading
succeeds after one that failed, which is published once more; a tick
without time in it repeats a figure and swallows one. So where time
passes, what is published stays within what was counted exactly where no
reading that follows a failed one belies what was known, that is, where
nothing had been counted yet. Counters that stand still are published as
nothing under the same condition. -/
theorem network_account (k : KernelView) (moment keep otherwise : Nat) (beats : List Beat)
    (hgrow : (successful k beats).Pairwise fun a b => ∀ sd, (a.of sd).Below (b.of sd)) :
    let events := (Sampler.ofView k moment keep otherwise).events beats
    let first := fun sd t => tally sd t (successful k beats).head?
    let last := fun sd t => tally sd t (successful k beats).getLast?
    (∀ sd t, published sd t events + (swallowed sd t k moment beats).sum + first sd t
      = last sd t + (forgotten sd t k moment beats).sum + (repeated sd t k moment beats).sum) ∧
    (∀ sd t, published sd t events ≤ last sd t - first sd t ↔
      (forgotten sd t k moment beats).sum + (repeated sd t k moment beats).sum
        ≤ (swallowed sd t k moment beats).sum) ∧
    (Ticking moment beats → ∀ sd t, published sd t events ≤ last sd t - first sd t ↔
      ∀ n ∈ forgotten sd t k moment beats, n = 0) ∧
    ∀ sd, Still sd (readings k beats) → ∀ e ∈ events, e.system.network.of sd = {} := by
  intro events first last
  have hsound : ∀ sd t, (pastOf sd t k).Sound := fun sd t n hn => hn
  have hcounts : ∀ sd t, (Network.counts (pastOf sd t k) (looks sd t moment beats)).Pairwise
      (· ≤ ·) := by
    intro sd t
    rw [counts_eq, List.pairwise_map]
    exact hgrow.imp fun hbelow => (hbelow sd).of t
  have hpublished : ∀ sd t, published sd t events
      = (along Look.next Look.published (looks sd t moment beats) (pastOf sd t k)).sum :=
    fun sd t => published_events (follows_ofView sd t k moment keep otherwise)
  have hfirst : ∀ sd t, first sd t
      = Network.firstCount (pastOf sd t k) (looks sd t moment beats) := by
    intro sd t
    rw [Network.firstCount, counts_eq, List.head?_map]
    rfl
  have hlast : ∀ sd t, last sd t
      = Network.lastCount (pastOf sd t k) (looks sd t moment beats) := by
    intro sd t
    rw [Network.lastCount, counts_eq, List.getLast?_map]
    rfl
  refine ⟨fun sd t => ?_, fun sd t => ?_, fun hticking sd t => ?_, fun sd hstill => ?_⟩
  · rw [hpublished, hfirst, hlast]
    exact Network.account (hsound sd t) (hcounts sd t)
  · rw [hpublished, hfirst, hlast]
    exact Network.published_le_iff (hsound sd t) (hcounts sd t)
  · rw [hpublished, hfirst, hlast]
    exact Network.published_le_iff_of_later (hsound sd t) (hcounts sd t)
      (later_of_ticking sd t hticking)
  · refine events_of_still rfl ?_ hstill
    cases sd with
    | physical => rfl
    | virtual => rfl

-- ===================================================== a failed reading

/-- A view of one physical interface. -/
def oneInterface : KernelView where
  netDev := some "eth0: 1000 10 3 2 0 0 0 0 2000 10 1 4".toList

/-- Two ticks, a second apart, of which the first cannot read the
counters. -/
def failureAndRecovery : List Beat :=
  [{ moment := 1000000000 }, { kernel := oneInterface, moment := 2000000000 }]

theorem successful_failureAndRecovery :
    successful oneInterface failureAndRecovery = List.replicate 2 { physical := {
      rxBytes := 1000, txBytes := 2000, rxErrors := 3, rxDrops := 2, txErrors := 1,
      txDrops := 4 } } := by
  decide +kernel

theorem ticking_failureAndRecovery : Ticking 0 failureAndRecovery :=
  ⟨by decide +kernel, by decide +kernel, trivial⟩

theorem never_falls_failureAndRecovery :
    (successful oneInterface failureAndRecovery).Pairwise
      fun a b => ∀ sd, (a.of sd).Below (b.of sd) := by
  rw [successful_failureAndRecovery]
  exact List.pairwise_replicate.mpr (.inr fun sd => below_refl _)

/-- The account of a recovery that finds something counted: more is published
than was counted. -/
theorem published_exceeds_counted :
    ¬ published .physical .rxErrors
        ((Sampler.ofView oneInterface 0 1 1).events failureAndRecovery)
      ≤ tally .physical .rxErrors (successful oneInterface failureAndRecovery).getLast?
        - tally .physical .rxErrors (successful oneInterface failureAndRecovery).head? := by
  obtain ⟨-, -, hexact, -⟩ := network_account oneInterface 0 1 1 failureAndRecovery
    never_falls_failureAndRecovery
  rw [hexact ticking_failureAndRecovery .physical .rxErrors]
  have hforgotten : forgotten .physical .rxErrors oneInterface 0 failureAndRecovery = [3] := by
    decide +kernel
  rw [hforgotten]
  decide

/-- The counters stand still, time passes, and the tick that can read them
again publishes all that they have counted, with a rate. -/
theorem recovery_is_published :
    (∀ a ∈ successful oneInterface failureAndRecovery,
      ∀ b ∈ successful oneInterface failureAndRecovery, a = b) ∧
    Ticking 0 failureAndRecovery ∧
    published .physical .rxErrors
      ((Sampler.ofView oneInterface 0 1 1).events failureAndRecovery) = 3 ∧
    (((Sampler.ofView oneInterface 0 1 1).events failureAndRecovery).map fun e =>
      decide (0 < (e.system.network.of .physical).download)) = [false, true] := by
  refine ⟨?_, ticking_failureAndRecovery, by decide +kernel, by decide +kernel⟩
  rw [successful_failureAndRecovery]
  intro a ha b hb
  exact (List.eq_of_mem_replicate ha).trans (List.eq_of_mem_replicate hb).symm

end HostTelemetry.Host
