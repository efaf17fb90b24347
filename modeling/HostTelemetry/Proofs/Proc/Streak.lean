/-
What a tracker remembers of a process is a function of the process's own
latest run of scans.

# The streak

The streak of a process is the longest run of scans that ends at the last
one and shows the process in each, the latest first. Its average begins
with nothing at the first of them and takes in one share for each scan that
follows. Neither says anything of other processes, of earlier
appearances of the number, or of how many processes are published.

# The invariant

A tracker keeps two tables, one of readings and one of averages, and builds
both anew at each scan. `Follows` says of one process that both hold what
its streak says: nothing at all if the last scan does not show it. The
tables have to stay in step: an average that outlived its reading would be
continued after a gap, and a reading that outlived its average would give a
share to a process that has just appeared. One scan is `Follows.step`, and a
run is by induction over its scans.

Moments may come in any order; where the clock goes back, no time has
passed.
-/
import HostTelemetry.Proc.Tracker
import HostTelemetry.Proofs.Runs
import Mathlib.Data.List.Nodup

namespace HostTelemetry.Proc

open Number (round2)

-- =============================================================== streaks

/-- What a tracker is given at a tick. -/
structure Scan where
  processes : List Scanned
  /-- The moment, in billionths of a second. -/
  moment : Nat
  cores : Nat
  /-- The bytes of memory that the host has. -/
  totalMemory : Nat

/-- The processes that a scan shows. -/
def Scan.pids (s : Scan) : List Int32 := s.processes.map (·.pid)

/-- A process as a scan shows it. -/
structure Glimpse extends Reading where
  cores : Nat

/-- What a scan shows of a process. -/
def Scan.glimpse? (p : Int32) (s : Scan) : Option Glimpse :=
  (s.processes.find? fun q => q.pid = p).map fun q =>
    { cpuMillis := q.cpuMillis, moment := s.moment, cores := s.cores }

/-- The longest run of scans up to the last one that all show a process, the
latest first. -/
def streak (p : Int32) (scans : List Scan) : List Glimpse :=
  (scans.reverse.takeWhile fun s => (s.glimpse? p).isSome).filterMap (Scan.glimpse? p)

/-- The average of the shares in a streak. -/
def average : List Glimpse → Float
  | [] => 0
  | [_] => 0
  | g :: before :: rest =>
    smooth (some (average (before :: rest)))
      (rawCpu before.cpuMillis g.cpuMillis (seconds (g.moment - before.moment)) g.cores)

/-- One scan more takes in the share since the scan before. -/
theorem average_cons (g : Glimpse) (rest : List Glimpse) :
    average (g :: rest) = smooth (rest.head?.map fun _ => average rest)
      (shareSince (rest.head?.map (·.toReading)) g.toReading g.cores) := by
  cases rest with
  | nil => simp only [average, List.head?_nil, Option.map_none, shareSince, smooth]
  | cons before rest => simp only [average, List.head?_cons, Option.map_some, shareSince]

/-- One scan more continues the streak or ends it. -/
theorem streak_append (p : Int32) (scans : List Scan) (s : Scan) :
    streak p (scans ++ [s]) = match s.glimpse? p with
      | some g => g :: streak p scans
      | none => [] := by
  unfold streak
  rw [List.reverse_append, List.reverse_singleton, List.singleton_append, List.takeWhile_cons]
  cases hg : s.glimpse? p with
  | none => rfl
  | some g => simp [hg]

-- ============================================================== one scan

namespace Tracker

variable {t : Tracker} {s : Scan} {p : Int32}

/-- What is left of a tracker after a scan. -/
def step (s : Scan) (t : Tracker) : Tracker :=
  (t.update s.processes s.moment s.cores s.totalMemory).2

theorem step_readings (s : Scan) (t : Tracker) :
    (step s t).readings
      = .ofList (s.processes.map fun q => (q.pid.toInt, ⟨q.cpuMillis, s.moment⟩)) := rfl

theorem step_averages (s : Scan) (t : Tracker) :
    (step s t).averages
      = .ofList (s.processes.map fun q => (q.pid.toInt, t.averageOf s.moment s.cores q)) := by
  simp only [step, update, List.map_map, Function.comp_def]

theorem find?_toInt (l : List Scanned) (p : Int32) :
    (l.find? fun q => q.pid.toInt = p.toInt) = l.find? fun q => q.pid = p := by
  simp only [Int32.toInt_inj]

theorem nodup_toInt {l : List Scanned} (h : (l.map (·.pid)).Nodup) :
    (l.map (·.pid.toInt)).Nodup := by
  have hmap : l.map (·.pid.toInt) = (l.map (·.pid)).map Int32.toInt := by
    rw [List.map_map]
    rfl
  rw [hmap]
  exact h.map fun a b => Int32.toInt_inj.mp

/-- The readings are those of the scan. -/
theorem get?_readings_step (h : s.pids.Nodup) :
    (step s t).readings.get? p.toInt = (s.glimpse? p).map (·.toReading) := by
  rw [step_readings, Dict.get?_ofList_map (nodup_toInt h), find?_toInt, Scan.glimpse?,
    Option.map_map]
  rfl

/-- An average is continued where there was one, with a share taken since
the reading where there was one. -/
theorem get?_averages_step (h : s.pids.Nodup) :
    (step s t).averages.get? p.toInt = (s.glimpse? p).map fun g =>
      smooth (t.averages.get? p.toInt)
        (shareSince (t.readings.get? p.toInt) g.toReading g.cores) := by
  rw [step_averages, Dict.get?_ofList_map (nodup_toInt h), find?_toInt, Scan.glimpse?,
    Option.map_map]
  cases hq : s.processes.find? fun q => q.pid = p with
  | none => rw [Option.map_none, Option.map_none]
  | some q =>
    have hpid : q.pid = p := by simpa using List.find?_some hq
    subst hpid
    simp only [Option.map_some, Function.comp_apply, averageOf]

/-- As many processes are remembered as the scan shows. -/
theorem tracked_step (h : s.pids.Nodup) : (step s t).tracked = s.pids.length := by
  have hkeys : ((s.processes.map fun q =>
      (q.pid.toInt, (⟨q.cpuMillis, s.moment⟩ : Reading))).map (·.1)).Nodup := by
    rw [List.map_map]
    exact nodup_toInt h
  rw [tracked, step_readings, Dict.length_ofList hkeys, List.length_map, Scan.pids, List.length_map]

end Tracker

-- ========================================================= the invariant

/-- Both tables hold of a process what its streak says. -/
structure Follows (p : Int32) (scans : List Scan) (t : Tracker) : Prop where
  readings : t.readings.get? p.toInt = (streak p scans).head?.map (·.toReading)
  averages : t.averages.get? p.toInt = (streak p scans).head?.map fun _ => average (streak p scans)

theorem follows_nil (p : Int32) (keep : Nat) : Follows p [] { keep } := ⟨rfl, rfl⟩

/-- One scan more. -/
theorem Follows.step {p : Int32} {scans : List Scan} {t : Tracker} {s : Scan}
    (ht : Follows p scans t) (h : s.pids.Nodup) : Follows p (scans ++ [s]) (t.step s) := by
  have hreadings := Tracker.get?_readings_step (t := t) (p := p) h
  have haverages := Tracker.get?_averages_step (t := t) (p := p) h
  rw [ht.readings, ht.averages] at haverages
  cases hg : s.glimpse? p with
  | none =>
    rw [hg] at hreadings haverages
    refine ⟨?_, ?_⟩
    · rw [streak_append, hg]
      exact hreadings
    · rw [streak_append, hg]
      exact haverages
  | some g =>
    rw [hg] at hreadings haverages
    refine ⟨?_, ?_⟩
    · rw [streak_append, hg]
      exact hreadings
    · rw [streak_append, hg, haverages, Option.map_some, List.head?_cons, Option.map_some,
        average_cons]

/-- A tracker after some scans. -/
def track (keep : Nat) (scans : List Scan) : Tracker := go Tracker.step scans { keep }

theorem track_append (keep : Nat) (scans : List Scan) (s : Scan) :
    track keep (scans ++ [s]) = (track keep scans).step s := go_append ..

/-- The invariant over a run. -/
theorem Follows.go {p : Int32} {before scans : List Scan} {t : Tracker} (ht : Follows p before t)
    (h : ∀ s ∈ scans, s.pids.Nodup) : Follows p (before ++ scans) (go Tracker.step scans t) := by
  induction scans generalizing before t with
  | nil =>
    rw [List.append_nil]
    exact ht
  | cons s rest ih =>
    have hfirst : Follows p (before ++ [s]) (t.step s) := ht.step (h s List.mem_cons_self)
    have hrest := ih hfirst fun s' hs' => h s' (List.mem_cons_of_mem s hs')
    rw [List.append_assoc] at hrest
    exact hrest

theorem follows_track (p : Int32) (keep : Nat) {scans : List Scan}
    (h : ∀ s ∈ scans, s.pids.Nodup) : Follows p scans (track keep scans) :=
  (follows_nil p keep).go h

-- ================================================ what a scan publishes

/-- Where no number comes twice, a process is found under its number. -/
theorem find?_pid {l : List Scanned} (h : (l.map (·.pid)).Nodup) {q : Scanned} (hq : q ∈ l) :
    (l.find? fun x => x.pid = q.pid) = some q := by
  induction l with
  | nil => cases hq
  | cons x r ih =>
    obtain ⟨hx, hr⟩ := List.nodup_cons.mp h
    rcases List.mem_cons.mp hq with rfl | hq
    · rw [List.find?_cons_of_pos (by simp)]
    · have hne : x.pid ≠ q.pid := fun heq => hx (List.mem_map.mpr ⟨q, hq, heq.symm⟩)
      rw [List.find?_cons_of_neg (by simpa using hne)]
      exact ih hr hq

/-- What is published of a process is the average that is remembered. -/
theorem Tracker.average_of_published {t : Tracker} {s : Scan} {u : Usage} (h : s.pids.Nodup)
    (hu : u ∈ (t.update s.processes s.moment s.cores s.totalMemory).1) :
    ∃ a, (t.step s).averages.get? u.pid.toInt = some a ∧ u.cpuPercent = round2 a := by
  obtain ⟨e, he, rfl⟩ := List.mem_map.mp ((rank_perm _).mem_iff.mp (List.mem_of_mem_take hu))
  obtain ⟨q, hq, rfl⟩ := List.mem_map.mp he
  refine ⟨t.averageOf s.moment s.cores q, ?_, rfl⟩
  show (t.step s).averages.get? q.pid.toInt = _
  rw [step_averages, Dict.get?_ofList_map (nodup_toInt h), find?_toInt, find?_pid h hq,
    Option.map_some]

/-- A process that the last scan shows has a streak. -/
theorem streak_ne_nil (scans : List Scan) {last : Scan} {p : Int32} (hp : p ∈ last.pids) :
    ∃ g rest, streak p (scans ++ [last]) = g :: rest := by
  obtain ⟨q, hq, rfl⟩ := List.mem_map.mp hp
  rw [streak_append]
  cases hg : last.glimpse? q.pid with
  | some g => exact ⟨g, _, rfl⟩
  | none =>
    have hnone := List.find?_eq_none.mp (Option.map_eq_none_iff.mp hg) q hq
    simp at hnone

/-- The average of a process is that of its own streak, and as many
processes are remembered as the last scan shows. Nothing hangs on how many
are published, on other processes, or on what was before the streak. -/
theorem average_is_of_own_streak (keep : Nat) (scans : List Scan) (last : Scan)
    (h : ∀ s ∈ scans ++ [last], s.pids.Nodup) :
    let t := track keep (scans ++ [last])
    let published := ((track keep scans).update last.processes last.moment last.cores
      last.totalMemory).1
    (∀ p ∈ last.pids,
      t.averages.get? p.toInt = some (average (streak p (scans ++ [last])))) ∧
    (∀ u ∈ published, u.cpuPercent = round2 (average (streak u.pid (scans ++ [last])))) ∧
    t.tracked = last.pids.length ∧
    ∀ (keep' : Nat) (scans' : List Scan), (∀ s ∈ scans', s.pids.Nodup) → ∀ p ∈ last.pids,
      streak p scans' = streak p (scans ++ [last]) →
        (track keep' scans').averages.get? p.toInt = t.averages.get? p.toInt := by
  intro t published
  have hlast : last.pids.Nodup :=
    h last (List.mem_append_right scans (List.mem_singleton_self last))
  have haverage : ∀ p ∈ last.pids,
      t.averages.get? p.toInt = some (average (streak p (scans ++ [last]))) := by
    intro p hp
    obtain ⟨g, rest, hstreak⟩ := streak_ne_nil scans hp
    rw [(follows_track p keep h).averages, hstreak, List.head?_cons, Option.map_some]
  refine ⟨haverage, fun u hu => ?_, ?_, fun keep' scans' h' p _ hsame => ?_⟩
  · obtain ⟨a, ha, hu⟩ := Tracker.average_of_published hlast hu
    rw [← track_append, (follows_track u.pid keep h).averages] at ha
    obtain ⟨-, -, rfl⟩ := Option.map_eq_some_iff.mp ha
    exact hu
  · rw [show t = (track keep scans).step last from track_append keep scans last]
    exact Tracker.tracked_step hlast
  · rw [(follows_track p keep' h').averages, hsame, (follows_track p keep h).averages]

/-- The numbers of the scans of a process that goes and comes back. -/
theorem streak_begins_anew :
    let seen (pid : Int32) (cpuMillis : Nat) : Scanned :=
      { pid, name := "", cpuMillis, memoryBytes := 0 }
    let scans : List Scan := [
      ⟨[seen 1 0, seen 2 0], 0, 1, 0⟩, ⟨[seen 1 900, seen 2 10], 1000000000, 1, 0⟩,
      ⟨[seen 2 20], 2000000000, 1, 0⟩, ⟨[seen 2 30, seen 1 5], 3000000000, 2, 0⟩]
    let last : Scan := ⟨[seen 1 505, seen 3 0], 4000000000, 4, 0⟩
    (∀ s ∈ scans ++ [last], s.pids.Nodup) ∧
      streak 1 (scans ++ [last]) = [⟨⟨505, 4000000000⟩, 4⟩, ⟨⟨5, 3000000000⟩, 2⟩] ∧
      (track 1 (scans ++ [last])).averages.get? (1 : Int32).toInt
        = some (smooth (some 0) (rawCpu 5 505 (seconds (4000000000 - 3000000000)) 4)) ∧
      (track 1 (scans ++ [last])).tracked = 2 := by
  intro seen scans last
  have hdistinct : ∀ s ∈ scans ++ [last], s.pids.Nodup := by decide
  have hstreak : streak 1 (scans ++ [last]) = [⟨⟨505, 4000000000⟩, 4⟩, ⟨⟨5, 3000000000⟩, 2⟩] := rfl
  obtain ⟨haverage, -, htracked, -⟩ := average_is_of_own_streak 1 scans last hdistinct
  refine ⟨hdistinct, hstreak, ?_, htracked⟩
  have hone := haverage 1 (by decide)
  rw [hstreak] at hone
  simpa only [average] using hone

end HostTelemetry.Proc
