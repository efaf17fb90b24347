/-
The order in which a scan shows the processes is of no consequence.

# Where an order could come through

The kernel's table of processes comes in any order. A tracker meets the
processes of a scan in that order, but each of them on its own: what it
remembers is kept by number, and where no number comes twice a dictionary
does not depend on the order in which its entries come (`Dict.ofList_congr`).

The ranking is another matter, since a pass of swaps depends on the order of
what it passes over. But it passes over the sorted list, and there is only one
way to sort: two processes that may stand either way round have the same score
and the same number, so they are one process (`byWeight_congr`).

# Two runs

So a scan and a reordering of it leave not only the same ranking but the same
tracker (`Tracker.update_congr`), and two runs over reordered scans go through
the same trackers, by induction over the scans.
-/
import HostTelemetry.Proofs.Proc.Ranking
import HostTelemetry.Proofs.Proc.Streak

namespace HostTelemetry.Proc

-- ============================================================ one ranking

/-- What may stand either way round has the same number. -/
theorem sortsBefore_antisymm {a b : Usage} (hab : sortsBefore a b = true)
    (hba : sortsBefore b a = true) : a.pid = b.pid := by
  rw [sortsBefore_iff] at hab hba
  rcases hab with hab | ⟨hab, hpid⟩
  · rcases hba with hba | ⟨hba, -⟩
    · omega
    · omega
  · rcases hba with hba | ⟨-, hpid'⟩
    · omega
    · exact Int32.le_antisymm hpid hpid'

/-- There is one way to sort processes with distinct numbers. -/
theorem byWeight_congr {l m : List Usage} (h : l.Perm m) (hpid : (l.map (·.pid)).Nodup) :
    byWeight l = byWeight m := by
  have hperm : (byWeight l).Perm (byWeight m) :=
    (byWeight_perm l).trans (h.trans (byWeight_perm m).symm)
  refine hperm.eq_of_pairwise (fun a b ha hb hab hba => ?_) (byWeight_pairwise l)
    (byWeight_pairwise m)
  have hal : a ∈ l := (byWeight_perm l).mem_iff.mp ha
  have hbl : b ∈ l := h.mem_iff.mpr ((byWeight_perm m).mem_iff.mp hb)
  exact List.inj_on_of_nodup_map hpid hal hbl (sortsBefore_antisymm hab hba)

theorem rank_congr {l m : List Usage} (h : l.Perm m) (hpid : (l.map (·.pid)).Nodup) :
    rank l = rank m := by
  rw [rank_eq_settle, rank_eq_settle, byWeight_congr h hpid]

-- ============================================================== one scan

/-- Two scans show the same processes, perhaps in another order, and no number
comes twice. -/
structure Scan.Reordered (s s' : Scan) : Prop where
  processes : s.processes.Perm s'.processes
  moment : s.moment = s'.moment
  cores : s.cores = s'.cores
  totalMemory : s.totalMemory = s'.totalMemory
  distinct : s.pids.Nodup

namespace Tracker

variable {t : Tracker} {s s' : Scan}

theorem pids_shown (t : Tracker) (scan : List Scanned) (now cores totalMemory : Nat) :
    (t.shown scan now cores totalMemory).map (·.pid) = scan.map (·.pid) := by
  rw [shown, List.map_map]
  rfl

/-- What is remembered of each process is remembered under its number. -/
theorem ofList_pid_congr {β : Type} {l m : List Scanned} (h : l.Perm m)
    (hpid : (l.map (·.pid)).Nodup) (f : Scanned → β) :
    Dict.ofList (l.map fun p => (p.pid.toInt, f p))
      = Dict.ofList (m.map fun p => (p.pid.toInt, f p)) := by
  refine Dict.ofList_congr (h.map _) ?_
  rw [List.map_map]
  exact nodup_toInt hpid

/-- A scan and a reordering of it give the same ranking and leave the same
tracker. -/
theorem update_congr (t : Tracker) {l m : List Scanned} (h : l.Perm m)
    (hpid : (l.map (·.pid)).Nodup) (now cores totalMemory : Nat) :
    t.update l now cores totalMemory = t.update m now cores totalMemory := by
  have hranking : (t.update l now cores totalMemory).1 = (t.update m now cores totalMemory).1 := by
    have hshown : rank (t.shown l now cores totalMemory)
        = rank (t.shown m now cores totalMemory) := by
      refine rank_congr (h.map _) ?_
      rw [pids_shown]
      exact hpid
    rw [update_fst, update_fst, hshown]
  have htracker : (t.update l now cores totalMemory).2 = (t.update m now cores totalMemory).2 := by
    simp only [update, List.map_map, Function.comp_def]
    rw [ofList_pid_congr h hpid fun p => (⟨p.cpuMillis, now⟩ : Reading),
      ofList_pid_congr h hpid fun p => t.averageOf now cores p]
  exact Prod.ext hranking htracker

/-- The ranking that a scan gives. -/
def ranking (s : Scan) (t : Tracker) : List Usage :=
  (t.update s.processes s.moment s.cores s.totalMemory).1

/-- The rankings of a run. -/
def rankings (scans : List Scan) (t : Tracker) : List (List Usage) :=
  along step (fun s t => [t.ranking s]) scans t

theorem update_of_reordered (h : s.Reordered s') (t : Tracker) :
    t.ranking s = t.ranking s' ∧ t.step s = t.step s' := by
  have hupdate := t.update_congr h.processes h.distinct s.moment s.cores s.totalMemory
  unfold ranking step
  rw [hupdate, h.moment, h.cores, h.totalMemory]
  exact ⟨rfl, rfl⟩

/-- Two runs over reordered scans give the same rankings and leave the same
tracker. -/
theorem run_of_reordered {scans scans' : List Scan} (h : List.Forall₂ Scan.Reordered scans scans') :
    ∀ t : Tracker, t.rankings scans = t.rankings scans' ∧ go step scans t = go step scans' t := by
  induction h with
  | nil => exact fun t => ⟨rfl, rfl⟩
  | @cons s s' rest rest' hs _ ih =>
    intro t
    obtain ⟨hranking, hstep⟩ := update_of_reordered hs t
    obtain ⟨hrankings, hgo⟩ := ih (t.step s)
    constructor
    · show [t.ranking s] ++ (t.step s).rankings rest = [t.ranking s'] ++ (t.step s').rankings rest'
      rw [hranking, hrankings, hstep]
    · show go step rest (t.step s) = go step rest' (t.step s')
      rw [hgo, hstep]

end Tracker

/-- Whatever a tracker remembers: a scan and a reordering of it give the same
ranking, place by place, and whatever scans come after, their rankings are the
same, and so is the number of processes that are remembered. Two runs over
reordered scans cannot be told apart at any scan. -/
theorem scan_order_is_invisible (t : Tracker) {s s' : Scan} (h : s.Reordered s') :
    t.ranking s = t.ranking s' ∧
    (∀ later, (t.step s).rankings later = (t.step s').rankings later ∧
      (go Tracker.step later (t.step s)).tracked = (go Tracker.step later (t.step s')).tracked) ∧
    ∀ scans scans', List.Forall₂ Scan.Reordered scans scans' →
      t.rankings scans = t.rankings scans' := by
  obtain ⟨hranking, hstep⟩ := Tracker.update_of_reordered h t
  refine ⟨hranking, fun later => ?_, fun scans scans' hruns => ?_⟩
  · rw [hstep]
    exact ⟨rfl, rfl⟩
  · exact (Tracker.run_of_reordered hruns t).1

/-- Three processes, of which two have used as much, in two orders. -/
theorem three_in_two_orders :
    let seen (pid : Int32) (cpuMillis mebibytes : Nat) : Scanned :=
      { pid, name := "", cpuMillis, memoryBytes := mebibytes * 1048576 }
    let t := track 2 [⟨[seen 7 0 8, seen 2 500 8], 0, 1, 0⟩]
    let s : Scan := ⟨[seen 7 100 8, seen 5 0 64, seen 2 600 8], 1000000000, 1, 0⟩
    let s' : Scan := ⟨[seen 5 0 64, seen 2 600 8, seen 7 100 8], 1000000000, 1, 0⟩
    s.Reordered s' ∧ (t.ranking s').map (·.pid) = [5, 2] ∧ t.ranking s = t.ranking s' ∧
      (t.step s).rankings [s, s'] = (t.step s').rankings [s, s'] := by
  intro seen t s s'
  have hreordered : s.Reordered s' :=
    ⟨(List.Perm.swap ..).trans ((List.Perm.swap ..).cons _), rfl, rfl, rfl, by decide⟩
  have hsorted : (t.shown s'.processes s'.moment s'.cores s'.totalMemory).Pairwise
      fun a b => sortsBefore a b = true := by decide +kernel
  obtain ⟨hranking, hlater, -⟩ := scan_order_is_invisible t hreordered
  refine ⟨hreordered, ?_, hranking, (hlater [s, s']).1⟩
  rw [Tracker.ranking, Tracker.update_fst, rank_of_pairwise hsorted]
  decide +kernel

end HostTelemetry.Proc
