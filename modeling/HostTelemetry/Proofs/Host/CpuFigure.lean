/-
Runs of the sampler, and the share of processor time that they publish.

# Two things to remember

The sampler keeps the last counts that could be read, and the last share
that it could tell. They change under different conditions: the counts at
every tick that can read them, the share only where they have grown. So
after a reset of the counters the share stays while the counts move on,
and the next share is measured from the reset.

`Remembers` says what the two are, in terms of the successful readings
alone. A tick that cannot read the counts adds no reading, so nothing that
follows can tell whether it was there.
-/
import HostTelemetry.Proofs.Host.Beats
import Mathlib.Data.List.Induction

namespace HostTelemetry.Host

-- ============================================================== readings

/-- The counts of processor time, if they can be read. -/
def KernelView.cpuTimes? (k : KernelView) : Option CpuTimes := k.stat.bind CpuTimes.ofStat?

/-- The successful readings of a run, the first when the sampler is made. -/
def cpuReadings (k : KernelView) (beats : List Beat) : List CpuTimes :=
  (k :: beats.map (·.kernel)).filterMap KernelView.cpuTimes?

/-- The latest two consecutive readings between which the total grew. -/
def lastGrowth? (readings : List CpuTimes) : Option (CpuTimes × CpuTimes) :=
  (readings.zip readings.tail).reverse.find? fun (before, now) => before.total < now.total

/-- The share that readings leave: the one between the latest two between
which the total grew, and 0 if it never did. -/
structure IsFigure (readings : List CpuTimes) (usage : Float) : Prop where
  grown : ∀ before now, lastGrowth? readings = some (before, now) →
    cpuUsage? before now = some usage
  still : lastGrowth? readings = none → usage = 0

theorem IsFigure.unique {readings : List CpuTimes} {u v : Float} (hu : IsFigure readings u)
    (hv : IsFigure readings v) : u = v := by
  cases hlast : lastGrowth? readings with
  | none => exact (hu.still hlast).trans (hv.still hlast).symm
  | some pair =>
    obtain ⟨before, now⟩ := pair
    exact Option.some.inj ((hu.grown before now hlast).symm.trans (hv.grown before now hlast))

theorem isFigure_nil : IsFigure [] 0 := ⟨nofun, fun _ => rfl⟩

theorem isFigure_singleton (c : CpuTimes) : IsFigure [c] 0 := ⟨nofun, fun _ => rfl⟩

-- ======================================================= one reading more

theorem cpuReadings_append (k : KernelView) (beats : List Beat) (b : Beat) :
    cpuReadings k (beats ++ [b]) = cpuReadings k beats ++ b.kernel.cpuTimes?.toList := by
  unfold cpuReadings
  rw [List.map_append, ← List.cons_append, List.filterMap_append]
  cases hb : b.kernel.cpuTimes? with
  | none => simp [hb]
  | some c => simp [hb]

/-- The last reading makes a pair with the new one. -/
theorem zip_tail_append {α : Type} {l : List α} {a : α} (hlast : l.getLast? = some a) (c : α) :
    (l ++ [c]).zip (l ++ [c]).tail = l.zip l.tail ++ [(a, c)] := by
  induction l with
  | nil => cases hlast
  | cons x rest ih =>
    cases rest with
    | nil =>
      cases hlast
      rfl
    | cons y more =>
      have hrest : (y :: more).getLast? = some a := by
        rw [← hlast]
        exact (List.getLast?_cons_cons ..).symm
      exact congrArg ((x, y) :: ·) (ih hrest)

/-- A new reading decides if the total has grown, and changes nothing else. -/
theorem lastGrowth?_append {readings : List CpuTimes} {before : CpuTimes}
    (hlast : readings.getLast? = some before) (now : CpuTimes) :
    lastGrowth? (readings ++ [now])
      = if before.total < now.total then some (before, now) else lastGrowth? readings := by
  unfold lastGrowth?
  rw [zip_tail_append hlast, List.reverse_append, List.reverse_singleton, List.singleton_append,
    List.find?_cons]
  by_cases hgrew : before.total < now.total
  · simp [hgrew]
  · simp [hgrew]

/-- There is a share exactly where the total has grown. -/
theorem cpuUsage?_of_le {before now : CpuTimes} (h : now.total ≤ before.total) :
    cpuUsage? before now = none := by
  unfold cpuUsage?
  exact if_pos (Nat.sub_eq_zero_of_le (UInt64.le_iff_toNat_le.mp h))

theorem exists_cpuUsage? {before now : CpuTimes} (h : before.total < now.total) :
    ∃ usage, cpuUsage? before now = some usage := by
  unfold cpuUsage?
  rw [if_neg (Nat.sub_ne_zero_of_lt (UInt64.lt_iff_toNat_lt.mp h))]
  exact ⟨_, rfl⟩

-- ============================================================= one tick

section Tick

variable (s : Sampler) (b : Beat)

theorem cpu_after : (s.after b).cpu = b.kernel.cpuTimes?.or s.cpu := rfl

theorem cpuUsage_after :
    (s.after b).view.cpuUsage
      = (s.cpu.bind fun before => b.kernel.cpuTimes?.bind (cpuUsage? before)).getD
          s.view.cpuUsage := rfl

end Tick

/-- What a sampler knows after some successful readings. -/
structure Remembers (readings : List CpuTimes) (s : Sampler) : Prop where
  baseline : s.cpu = readings.getLast?
  figure : IsFigure readings s.view.cpuUsage

variable {readings : List CpuTimes} {s t : Sampler} {b : Beat}

/-- A tick that cannot read the counts changes neither. -/
theorem Remembers.missed (h : Remembers readings s) (hb : b.kernel.cpuTimes? = none) :
    Remembers readings (s.after b) where
  baseline := by
    rw [cpu_after, hb, Option.none_or]
    exact h.baseline
  figure := by
    rw [cpuUsage_after, hb]
    cases s.cpu with
    | none => exact h.figure
    | some before => exact h.figure

/-- A tick that reads them moves the baseline, and the share if the total
has grown. -/
theorem Remembers.read (h : Remembers readings s) {now : CpuTimes}
    (hb : b.kernel.cpuTimes? = some now) : Remembers (readings ++ [now]) (s.after b) where
  baseline := by
    rw [cpu_after, hb, Option.some_or, List.getLast?_append]
    rfl
  figure := by
    rw [cpuUsage_after, hb, h.baseline]
    cases hlast : readings.getLast? with
    | none =>
      obtain rfl := List.getLast?_eq_none_iff.mp hlast
      rw [Option.bind_none, Option.getD_none, h.figure.unique isFigure_nil]
      exact isFigure_singleton now
    | some before =>
      rw [Option.bind_some, Option.bind_some]
      by_cases hgrew : before.total < now.total
      · obtain ⟨usage, husage⟩ := exists_cpuUsage? hgrew
        have hpair : lastGrowth? (readings ++ [now]) = some (before, now) := by
          rw [lastGrowth?_append hlast, if_pos hgrew]
        rw [husage, Option.getD_some]
        refine ⟨fun before' now' hpair' => ?_, fun hnone => ?_⟩
        · rw [hpair] at hpair'
          cases hpair'
          exact husage
        · rw [hpair] at hnone
          cases hnone
      · have hsame : lastGrowth? (readings ++ [now]) = lastGrowth? readings := by
          rw [lastGrowth?_append hlast, if_neg hgrew]
        rw [cpuUsage?_of_le (UInt64.not_lt.mp hgrew), Option.getD_none]
        exact ⟨hsame ▸ h.figure.grown, hsame ▸ h.figure.still⟩

/-- One tick. -/
theorem Remembers.after (h : Remembers readings s) (b : Beat) :
    Remembers (readings ++ b.kernel.cpuTimes?.toList) (s.after b) := by
  cases hb : b.kernel.cpuTimes? with
  | none =>
    rw [Option.toList_none, List.append_nil]
    exact h.missed hb
  | some now =>
    rw [Option.toList_some]
    exact h.read hb

-- ================================================================== runs

theorem remembers_ofView (k : KernelView) (moment keep otherwise : Nat) :
    Remembers (cpuReadings k []) (.ofView k moment keep otherwise) := by
  have hcpu : (Sampler.ofView k moment keep otherwise).cpu = k.cpuTimes? := rfl
  have hreadings : cpuReadings k [] = k.cpuTimes?.toList := by
    unfold cpuReadings
    rw [List.map_nil, List.filterMap_cons]
    cases k.cpuTimes? with
    | none => rfl
    | some c => rfl
  rw [hreadings]
  cases hk : k.cpuTimes? with
  | none => exact ⟨hcpu.trans hk, isFigure_nil⟩
  | some c => exact ⟨hcpu.trans hk, isFigure_singleton c⟩

/-- What a sampler remembers after a run are the readings of the run. -/
theorem remembers_run (k : KernelView) (moment keep otherwise : Nat) (beats : List Beat) :
    Remembers (cpuReadings k beats) ((Sampler.ofView k moment keep otherwise).run beats) := by
  induction beats using List.reverseRecOn with
  | nil => exact remembers_ofView k moment keep otherwise
  | append_singleton beats b ih =>
    rw [run_append, cpuReadings_append]
    exact ih.after b

/-- Two samplers that remember the same readings cannot be told apart by
the shares that they publish from then on. -/
theorem Remembers.agree (hs : Remembers readings s) (ht : Remembers readings t)
    (beats : List Beat) :
    (s.events beats).map (·.system.cpu.usagePercent)
        = (t.events beats).map (·.system.cpu.usagePercent) ∧
      (s.run beats).view.cpuUsage = (t.run beats).view.cpuUsage := by
  induction beats generalizing s t readings with
  | nil => exact ⟨rfl, hs.figure.unique ht.figure⟩
  | cons b rest ih =>
    obtain ⟨hevents, hrun⟩ := ih (hs.after b) (ht.after b)
    have hnow : (s.event b).system.cpu.usagePercent = (t.event b).system.cpu.usagePercent :=
      (hs.after b).figure.unique (ht.after b).figure
    rw [events_cons, events_cons, List.map_cons, List.map_cons, hevents, hnow]
    exact ⟨rfl, hrun⟩

-- ============================================================ the figure

/-- The share of processor time after any run: the sampler shows, and each
event publishes, the share between the latest two consecutive successful
readings between which the total grew, and 0 if there are none. So a tick
whose total did not grow keeps the share, and a tick that cannot read the
counts may as well not have been. -/
theorem unreadable_ticks_are_invisible (k : KernelView) (moment keep otherwise : Nat)
    (beats : List Beat) :
    let s := (Sampler.ofView k moment keep otherwise).run beats
    (∀ p, IsFigure (cpuReadings k beats) (s.snapshot p).cpu.usagePercent) ∧
    (∀ b, IsFigure (cpuReadings k (beats ++ [b])) (s.event b).system.cpu.usagePercent) ∧
    (∀ b p before now, (cpuReadings k beats).getLast? = some before →
      b.kernel.cpuTimes? = some now → now.total ≤ before.total →
        (s.event b).system.cpu.usagePercent = (s.snapshot p).cpu.usagePercent) ∧
    ∀ b, b.kernel.cpuTimes? = none → ∀ later,
      ((s.after b).events later).map (·.system.cpu.usagePercent)
          = (s.events later).map (·.system.cpu.usagePercent) ∧
        ∀ p, (((s.after b).run later).snapshot p).cpu.usagePercent
          = ((s.run later).snapshot p).cpu.usagePercent := by
  intro s
  have hs : Remembers (cpuReadings k beats) s := remembers_run k moment keep otherwise beats
  have hnext : ∀ b, IsFigure (cpuReadings k (beats ++ [b]))
      (s.event b).system.cpu.usagePercent := by
    intro b
    rw [cpuReadings_append]
    exact (hs.after b).figure
  refine ⟨fun p => hs.figure, hnext, fun b p before now hbefore hnow hle => ?_,
    fun b hb later => ?_⟩
  · have hsame : lastGrowth? (cpuReadings k (beats ++ [b]))
        = lastGrowth? (cpuReadings k beats) := by
      rw [cpuReadings_append, hnow, Option.toList_some, lastGrowth?_append hbefore,
        if_neg (UInt64.not_lt.mpr hle)]
    have hkept : IsFigure (cpuReadings k (beats ++ [b])) (s.snapshot p).cpu.usagePercent :=
      ⟨hsame ▸ hs.figure.grown, hsame ▸ hs.figure.still⟩
    exact (hnext b).unique hkept
  · obtain ⟨hevents, hrun⟩ := (hs.missed hb).agree hs later
    exact ⟨hevents, fun p => hrun⟩

/-- A kernel that shows these counts. -/
def statView (line : String) : KernelView where
  stat := some line.toList

/-- The total has grown once. Then the counters are reset, which keeps the
share, and a tick that cannot read them leaves no trace in what follows. -/
theorem reset_and_gap_keep_figure :
    let k := statView "cpu  100 0 50 850"
    let grown : Beat := { kernel := statView "cpu  150 0 50 900", moment := 1 }
    let reset : Beat := { kernel := statView "cpu  5 0 5 10", moment := 2 }
    let gap : Beat := { kernel := statView "cpu  1 2 3", moment := 3 }
    let s := (Sampler.ofView k 0 1 1).run [grown]
    cpuReadings k [grown] = [⟨1000, 850⟩, ⟨1100, 900⟩] ∧
    reset.kernel.cpuTimes? = some ⟨20, 10⟩ ∧ gap.kernel.cpuTimes? = none ∧
    cpuUsage? ⟨1000, 850⟩ ⟨1100, 900⟩ = some (s.snapshot {}).cpu.usagePercent ∧
    (s.event reset).system.cpu.usagePercent = (s.snapshot {}).cpu.usagePercent ∧
    ((s.after gap).events [reset, grown]).map (·.system.cpu.usagePercent)
      = (s.events [reset, grown]).map (·.system.cpu.usagePercent) := by
  intro k grown reset gap s
  have hreadings : cpuReadings k [grown] = [⟨1000, 850⟩, ⟨1100, 900⟩] := by decide +kernel
  have hreset : reset.kernel.cpuTimes? = some ⟨20, 10⟩ := by decide +kernel
  have hgap : gap.kernel.cpuTimes? = none := by decide +kernel
  obtain ⟨hshown, -, hkept, hinvisible⟩ := unreadable_ticks_are_invisible k 0 1 1 [grown]
  have hlast : (cpuReadings k [grown]).getLast? = some ⟨1100, 900⟩ := by
    rw [hreadings]
    rfl
  have hpair : lastGrowth? (cpuReadings k [grown]) = some (⟨1000, 850⟩, ⟨1100, 900⟩) := by
    rw [hreadings]
    rfl
  exact ⟨hreadings, hreset, hgap, (hshown {}).grown _ _ hpair,
    hkept reset {} _ _ hlast hreset (by decide), (hinvisible gap hgap [reset, grown]).1⟩

end HostTelemetry.Host
