/-
What one pass over the sorted processes does to their order.

# The pass

A pass goes down the list with one process in hand, the `upper` one. Either
it puts that one down and takes up the next, or the two change places and the
one in hand stays there. They change places only if their scores are nearly
the same and the lower one has the smaller number, which `changePlaces_iff`
says in these words.

# What it keeps

Two processes that it turns round are nearly tied (`settlePass_pairwise`), so
of two that are not the heavier one stands first. All that it has put down
after so many steps is what it has met so far, less the one in hand
(`settlePass_take`). That one is the last it met, or is nearly tied with it,
so nothing comes up by more than one place and a ranking that is cut off lacks
at most one process, for one that is nearly as heavy.

# What it leaves

Where a process is carried past others, these become neighbours behind
the pass's back, and nothing looks at them again. Neighbours that are nearly
tied and out of the order of their numbers always come from three processes
of which the outer two were nearly tied (`settlePass_leaves`), the one in
hand or the one put down before it being the third. So a ranking has such
neighbours exactly if another pass would change it, and has none if no tie
reaches over a process between.
-/
import HostTelemetry.Proc.Tracker
import HostTelemetry.Proofs.Number.Order
import Mathlib.Data.List.Infix
import Mathlib.Data.List.Nodup

namespace HostTelemetry.Proc

open scoped List
open Number (orderKey orderKey_lt lt_or_lt_or_abs_sub abs_sub_comm)

-- ============================================================ near ties

/-- The scores of two processes are nearly the same. -/
def NearlyTied (a b : Usage) : Prop := (a.score - b.score).abs < tieThreshold

instance (a b : Usage) : Decidable (NearlyTied a b) :=
  inferInstanceAs (Decidable ((a.score - b.score).abs < tieThreshold))

theorem NearlyTied.symm {a b : Usage} (h : NearlyTied a b) : NearlyTied b a := by
  unfold NearlyTied
  rw [abs_sub_comm]
  exact h

/-- Of two processes with finite scores one is heavier, or they are tied. -/
theorem score_cases {a b : Usage} (ha : a.score.isFinite = true) (hb : b.score.isFinite = true) :
    a.score < b.score ∨ b.score < a.score ∨ NearlyTied a b := by
  rcases lt_or_lt_or_abs_sub ha hb with h | h | h
  · exact .inl h
  · exact .inr (.inl h)
  · refine .inr (.inr ?_)
    unfold NearlyTied
    rw [h]
    decide +kernel

theorem changePlaces_iff {upper lower : Usage} :
    changePlaces upper lower = true ↔ NearlyTied upper lower ∧ lower.pid < upper.pid := by
  simp only [changePlaces, Bool.and_eq_true, decide_eq_true_eq, NearlyTied]

theorem changePlaces_asymm {a b : Usage} (h : changePlaces a b = true) :
    ¬ changePlaces b a = true := by
  rw [changePlaces_iff] at h ⊢
  exact fun hback => Int32.lt_irrefl (Int32.lt_trans h.2 hback.2)

-- ========================================================= the pure sort

/-- The processes by descending score, equally heavy ones by number; a score of
plus nothing counts for more than one of minus nothing. -/
def byWeight (processes : List Usage) : List Usage := processes.mergeSort sortsBefore

theorem rank_eq_settle (processes : List Usage) : rank processes = settle (byWeight processes) :=
  rfl

theorem byWeight_perm (processes : List Usage) : (byWeight processes).Perm processes :=
  List.mergeSort_perm processes sortsBefore

theorem sortsBefore_iff {a b : Usage} :
    sortsBefore a b = true ↔
      orderKey b.score < orderKey a.score ∨
        (orderKey a.score = orderKey b.score ∧ a.pid ≤ b.pid) := by
  simp only [sortsBefore, Bool.or_eq_true, Bool.and_eq_true, decide_eq_true_eq, beq_iff_eq]

theorem sortsBefore_trans {a b c : Usage} (hab : sortsBefore a b = true)
    (hbc : sortsBefore b c = true) : sortsBefore a c = true := by
  rw [sortsBefore_iff] at *
  rcases hab with hab | ⟨hab, hpid⟩
  · exact .inl (by omega)
  · rcases hbc with hbc | ⟨hbc, hpid'⟩
    · exact .inl (by omega)
    · exact .inr ⟨by omega, Int32.le_trans hpid hpid'⟩

theorem sortsBefore_total (a b : Usage) : (sortsBefore a b || sortsBefore b a) = true := by
  rw [Bool.or_eq_true, sortsBefore_iff, sortsBefore_iff]
  rcases Int.lt_trichotomy (orderKey a.score) (orderKey b.score) with h | h | h
  · exact .inr (.inl h)
  · rcases Int32.le_total a.pid b.pid with hpid | hpid
    · exact .inl (.inr ⟨h, hpid⟩)
    · exact .inr (.inr ⟨h.symm, hpid⟩)
  · exact .inl (.inl h)

theorem byWeight_pairwise (processes : List Usage) :
    (byWeight processes).Pairwise fun a b => sortsBefore a b = true := by
  have htrans : ∀ a b c, sortsBefore a b = true → sortsBefore b c = true →
      sortsBefore a c = true := fun _ _ _ => sortsBefore_trans
  exact List.pairwise_mergeSort htrans sortsBefore_total processes

/-- Sorting leaves a sorted list as it is. -/
theorem byWeight_of_pairwise {processes : List Usage}
    (h : processes.Pairwise fun a b => sortsBefore a b = true) : byWeight processes = processes :=
  List.mergeSort_of_pairwise h

/-- The one that is sorted first is not the lighter one. -/
theorem not_lt_of_sortsBefore {a b : Usage} (h : sortsBefore a b = true) :
    ¬ a.score < b.score := by
  intro hlt
  have hkey := orderKey_lt hlt
  rw [sortsBefore_iff] at h
  omega

-- ==================================================== what one pass keeps

theorem settlePass_cons_of_changePlaces {upper lower : Usage} (r : List Usage)
    (h : changePlaces upper lower = true) :
    settlePass upper (lower :: r) = lower :: settlePass upper r := by
  rw [settlePass, if_pos h]

theorem settlePass_cons_of_not {upper lower : Usage} (r : List Usage)
    (h : ¬ changePlaces upper lower = true) :
    settlePass upper (lower :: r) = upper :: settlePass lower r := by
  rw [settlePass, if_neg h]

theorem mem_settlePass {upper u : Usage} {l : List Usage} :
    u ∈ settlePass upper l ↔ u ∈ upper :: l :=
  (settlePass_perm upper l).mem_iff

/-- A pass turns round only what may change places. -/
theorem settlePass_pairwise {R : Usage → Usage → Prop} {upper : Usage} {l : List Usage}
    (h : (upper :: l).Pairwise R) :
    (settlePass upper l).Pairwise fun a b => R a b ∨ changePlaces b a = true := by
  induction l generalizing upper with
  | nil => exact List.pairwise_singleton ..
  | cons lower r ih =>
    obtain ⟨hupper, hrest⟩ := List.pairwise_cons.mp h
    obtain ⟨hlower, hr⟩ := List.pairwise_cons.mp hrest
    by_cases hswap : changePlaces upper lower = true
    · have hcarried : (upper :: r).Pairwise R :=
        List.pairwise_cons.mpr ⟨fun b hb => hupper b (List.mem_cons_of_mem _ hb), hr⟩
      rw [settlePass_cons_of_changePlaces r hswap]
      refine List.pairwise_cons.mpr ⟨fun b hb => ?_, ih hcarried⟩
      rcases List.mem_cons.mp (mem_settlePass.mp hb) with rfl | hb
      · exact .inr hswap
      · exact .inl (hlower b hb)
    · rw [settlePass_cons_of_not r hswap]
      exact List.pairwise_cons.mpr ⟨fun b hb => .inl (hupper b (mem_settlePass.mp hb)), ih hrest⟩

/-- What a pass has put down after some steps is what it has met by then, less
the one in hand. That one is the last it met or has changed places with it. -/
theorem settlePass_take (upper : Usage) {l : List Usage} {n : Nat} (hn : n ≤ l.length) :
    ∃ held last, ((upper :: l).take (n + 1)).Perm (held :: (settlePass upper l).take n) ∧
      (upper :: l)[n]? = some last ∧ (held = last ∨ changePlaces held last = true) := by
  induction l generalizing upper n with
  | nil =>
    obtain rfl : n = 0 := Nat.le_zero.mp hn
    exact ⟨upper, upper, .refl _, rfl, .inl rfl⟩
  | cons lower r ih =>
    cases n with
    | zero => exact ⟨upper, upper, .refl _, rfl, .inl rfl⟩
    | succ k =>
      have hk : k ≤ r.length := Nat.le_of_succ_le_succ hn
      by_cases hswap : changePlaces upper lower = true
      · obtain ⟨held, last, hperm, hlast, hheld⟩ := ih upper hk
        have hmet : ((upper :: lower :: r).take (k + 2)).Perm
            (held :: (settlePass upper (lower :: r)).take (k + 1)) := by
          rw [settlePass_cons_of_changePlaces r hswap]
          exact (List.Perm.swap ..).trans ((hperm.cons lower).trans (.swap ..))
        -- at the first step the one in hand is `upper`, and the last met is `lower`
        cases k with
        | zero =>
          obtain rfl : upper = held := by simpa using hperm
          exact ⟨upper, lower, hmet, rfl, .inr hswap⟩
        | succ k => exact ⟨held, last, hmet, hlast, hheld⟩
      · obtain ⟨held, last, hperm, hlast, hheld⟩ := ih lower hk
        refine ⟨held, last, ?_, hlast, hheld⟩
        rw [settlePass_cons_of_not r hswap]
        exact (hperm.cons upper).trans (.swap ..)

-- ============================================================ the ranking

/-- In a ranking, of two processes that are not nearly tied the heavier one
stands first. -/
theorem rank_pairwise {processes : List Usage}
    (hfinite : ∀ u ∈ processes, u.score.isFinite = true) :
    (rank processes).Pairwise fun a b => ¬ NearlyTied a b → b.score < a.score := by
  have hsettled : (rank processes).Pairwise fun a b =>
      sortsBefore a b = true ∨ changePlaces b a = true := by
    have hsorted := byWeight_pairwise processes
    rw [rank_eq_settle]
    cases h : byWeight processes with
    | nil => exact .nil
    | cons u r => exact settlePass_pairwise (h ▸ hsorted)
  refine hsettled.imp_of_mem fun {a b} ha hb hab hclear => ?_
  have hfa := hfinite a ((rank_perm processes).mem_iff.mp ha)
  have hfb := hfinite b ((rank_perm processes).mem_iff.mp hb)
  rcases hab with hab | hab
  · rcases score_cases hfa hfb with h | h | h
    · exact absurd h (not_lt_of_sortsBefore hab)
    · exact h
    · exact absurd h hclear
  · exact absurd (changePlaces_iff.mp hab).1.symm hclear

/-- What the first places of a ranking have is among what the pure sort has up
to one place further. -/
theorem rank_take_subset (processes : List Usage) (n : Nat) :
    (rank processes).take n ⊆ (byWeight processes).take (n + 1) := by
  rw [rank_eq_settle]
  cases h : byWeight processes with
  | nil => exact List.take_subset ..
  | cons u r =>
    by_cases hn : n ≤ r.length
    · obtain ⟨held, last, hperm, -⟩ := settlePass_take u hn
      exact fun v hv => hperm.mem_iff.mpr (List.mem_cons_of_mem _ hv)
    · have hall : (u :: r).take (n + 1) = u :: r := List.take_of_length_le (by simp; omega)
      rw [hall]
      exact fun v hv => mem_settlePass.mp (List.mem_of_mem_take hv)

theorem nodup_byWeight {processes : List Usage} (hpid : (processes.map (·.pid)).Nodup) :
    (byWeight processes).Nodup :=
  (byWeight_perm processes).nodup_iff.mpr (List.Nodup.of_map _ hpid)

/-- Nothing comes up by more than one place. -/
theorem place_le_succ {processes : List Usage} (hpid : (processes.map (·.pid)).Nodup)
    {i j : Nat} {u : Usage} (hi : (rank processes)[i]? = some u)
    (hj : (byWeight processes)[j]? = some u) : j ≤ i + 1 := by
  have hshown : u ∈ (rank processes).take (i + 1) :=
    List.mem_of_getElem? ((List.getElem?_take_of_lt (Nat.lt_succ_self i)).trans hi)
  obtain ⟨k, hk⟩ := List.mem_iff_getElem?.mp (rank_take_subset processes (i + 1) hshown)
  rw [List.getElem?_take] at hk
  split at hk
  · next hlt =>
    have hinside : j < (byWeight processes).length := (List.getElem?_eq_some_iff.mp hj).1
    have hsame : j = k :=
      (List.getElem?_inj hinside (nodup_byWeight hpid)).mp (hj.trans hk.symm)
    omega
  · cases hk

-- ===================================================== rankings cut off

/-- A list has the processes of another, or one of them is missing and the one
that has taken its place is nearly tied with it. -/
def AllButOne (shown wanted : List Usage) : Prop :=
  shown.Perm wanted ∨ ∃ missing instead rest, wanted.Perm (missing :: rest) ∧
    shown.Perm (instead :: rest) ∧ NearlyTied missing instead

/-- The first places of a ranking have all but one of the first processes of the
pure sort. -/
theorem allButOne_take (processes : List Usage) (n : Nat) :
    AllButOne ((rank processes).take n) ((byWeight processes).take n) := by
  rw [rank_eq_settle]
  cases h : byWeight processes with
  | nil => exact .inl (.refl _)
  | cons u r =>
    by_cases hn : n ≤ r.length
    · obtain ⟨held, last, hperm, hlast, hheld⟩ := settlePass_take u hn
      rw [List.take_add_one, hlast] at hperm
      -- the first processes and the last met are the one in hand and those put down
      have hmet : (last :: (u :: r).take n).Perm (held :: (settlePass u r).take n) :=
        (List.perm_append_singleton last _).symm.trans hperm
      rcases hheld with rfl | hswap
      · exact .inl hmet.cons_inv.symm
      · have hne : held ≠ last := fun heq => changePlaces_asymm (heq ▸ hswap) (heq ▸ hswap)
        have hmem : held ∈ (u :: r).take n := by
          rcases List.mem_cons.mp (hmet.mem_iff.mpr List.mem_cons_self) with heq | hmem
          · exact absurd heq hne
          · exact hmem
        obtain ⟨before, after, hsplit⟩ := List.append_of_mem hmem
        have hwanted : ((u :: r).take n).Perm (held :: (before ++ after)) :=
          hsplit ▸ List.perm_middle
        have hshown : ((settlePass u r).take n).Perm (last :: (before ++ after)) := by
          have hboth := hmet.symm.trans ((hwanted.cons last).trans (.swap ..))
          exact hboth.cons_inv
        exact .inr ⟨held, last, before ++ after, hwanted, hshown, (changePlaces_iff.mp hswap).1⟩
    · have hperm : (settle (u :: r)).Perm (u :: r) := settlePass_perm u r
      have hlong : (u :: r).length ≤ n := Nat.lt_of_not_le hn
      rw [List.take_of_length_le hlong, List.take_of_length_le (hperm.length_eq ▸ hlong)]
      exact .inl hperm

/-- What the processes of a scan use, before they are ranked. -/
def Tracker.shown (t : Tracker) (scan : List Scanned) (now cores totalMemory : Nat) : List Usage :=
  scan.map fun p => p.usage (t.averageOf now cores p) totalMemory

theorem Tracker.update_fst (t : Tracker) (scan : List Scanned) (now cores totalMemory : Nat) :
    (t.update scan now cores totalMemory).1
      = (rank (t.shown scan now cores totalMemory)).take t.keep := by
  simp only [Tracker.update, Tracker.shown, List.map_map]
  rfl

/-- Ranking processes with distinct numbers and finite scores only reorders
them. Of two that are not nearly tied the heavier one stands first, and nothing
comes up by more than one place from where it is sorted. What a tracker gives
of them lacks at most one of those that come first by weight, for one that is
nearly tied with it. -/
theorem ranking_is_sorted_but_for_near_ties (processes : List Usage)
    (hpid : (processes.map (·.pid)).Nodup)
    (hfinite : ∀ u ∈ processes, u.score.isFinite = true) :
    (rank processes).Perm processes ∧
      ((rank processes).Pairwise fun a b => ¬ NearlyTied a b → b.score < a.score) ∧
      (∀ i j u, (rank processes)[i]? = some u → (byWeight processes)[j]? = some u → j ≤ i + 1) ∧
      ∀ (t : Tracker) (scan : List Scanned) (now cores totalMemory : Nat),
        t.shown scan now cores totalMemory = processes →
        AllButOne (t.update scan now cores totalMemory).1 ((byWeight processes).take t.keep) := by
  refine ⟨rank_perm processes, rank_pairwise hfinite, fun i j u => place_le_succ hpid, ?_⟩
  rintro t scan now cores totalMemory rfl
  rw [Tracker.update_fst]
  exact allButOne_take _ _

/-- Sorted processes are ranked by the pass alone. -/
theorem rank_of_pairwise {processes : List Usage}
    (h : processes.Pairwise fun a b => sortsBefore a b = true) :
    rank processes = settle processes := by
  rw [rank_eq_settle, byWeight_of_pairwise h]

/-- A tracker of which only the heaviest process is asked. -/
def narrow : Tracker := { keep := 1 }

/-- A scan of four processes, of which any two neighbours are nearly tied. -/
def chainScan : List Scanned :=
  [⟨4, "a", 0, 12582912, "", ""⟩, ⟨3, "b", 0, 8388608, "", ""⟩, ⟨2, "c", 0, 4194304, "", ""⟩,
    ⟨1, "d", 0, 0, "", ""⟩]

def chain : List Usage := narrow.shown chainScan 0 1 0

theorem chain_pairwise : chain.Pairwise fun a b => sortsBefore a b = true := by
  decide +kernel

theorem chain_is_sorted_but_for_near_ties :
    (chain.map (·.pid)).Nodup ∧ (∀ u ∈ chain, u.score.isFinite = true) ∧
      (byWeight chain).map (·.pid) = [4, 3, 2, 1] ∧ (rank chain).map (·.pid) = [3, 4, 1, 2] ∧
      ((rank chain).Pairwise fun a b => ¬ NearlyTied a b → b.score < a.score) ∧
      ((narrow.update chainScan 0 1 0).1.map (·.pid)) = [3] ∧
      AllButOne (narrow.update chainScan 0 1 0).1 ((byWeight chain).take 1) := by
  have hpid : (chain.map (·.pid)).Nodup := by decide +kernel
  have hfinite : ∀ u ∈ chain, u.score.isFinite = true := by decide +kernel
  have hrank : (rank chain).map (·.pid) = [3, 4, 1, 2] := by
    rw [rank_of_pairwise chain_pairwise]
    decide +kernel
  obtain ⟨-, hordered, -, hcut⟩ := ranking_is_sorted_but_for_near_ties chain hpid hfinite
  refine ⟨hpid, hfinite, ?_, hrank, hordered, ?_, hcut narrow chainScan 0 1 0 rfl⟩
  · rw [byWeight_of_pairwise chain_pairwise]
    rfl
  · have htake := congrArg (List.take 1) hrank
    rw [← List.map_take] at htake
    rw [Tracker.update_fst]
    exact htake

-- ================================================ near ties out of order

/-- Neighbours that are nearly tied stand in the order of their numbers. -/
def NearTiesByPid (l : List Usage) : Prop :=
  ∀ x y, [x, y] <:+: l → NearlyTied x y → x.pid < y.pid

theorem not_infix_of_length_le {x y : Usage} {l : List Usage} (hl : l.length ≤ 1) :
    ¬ [x, y] <:+: l :=
  fun h => absurd (Nat.le_trans h.length_le hl) (show ¬ 2 ≤ 1 by decide)

/-- What a pass puts down first is the one in hand, or it has changed places
with that one, which then comes below it. -/
theorem settlePass_head {upper y : Usage} {l : List Usage} (h : [y] <+: settlePass upper l) :
    y = upper ∨ ∃ r, l = y :: r ∧ changePlaces upper y = true ∧
      [y, upper] <+ settlePass upper l := by
  cases l with
  | nil => exact .inl (List.cons_prefix_cons.mp h).1
  | cons lower r =>
    by_cases hswap : changePlaces upper lower = true
    · rw [settlePass_cons_of_changePlaces r hswap] at h ⊢
      obtain ⟨rfl, -⟩ := List.cons_prefix_cons.mp h
      have hbelow : [upper] <+ settlePass upper r :=
        List.singleton_sublist.mpr (mem_settlePass.mpr List.mem_cons_self)
      exact .inr ⟨r, rfl, hswap, hbelow.cons_cons y⟩
    · rw [settlePass_cons_of_not r hswap] at h
      exact .inl (List.cons_prefix_cons.mp h).1

/-- Neighbours that a pass leaves out of order have come together around a third
process, which stands below them and is nearly tied with the lower one. Before
the pass the three stood with the lower one last. -/
theorem settlePass_leaves {upper x y : Usage} {l : List Usage}
    (h : [x, y] <:+: settlePass upper l) (hxy : changePlaces x y = true) :
    ∃ z, [y, z] <+ settlePass upper l ∧ changePlaces z y = true ∧
      ([z, x, y] <+ upper :: l ∨ [x, z, y] <+ upper :: l) := by
  induction l generalizing upper with
  | nil => exact absurd h (not_infix_of_length_le (Nat.le_refl 1))
  | cons lower r ih =>
    by_cases hswap : changePlaces upper lower = true
    · rw [settlePass_cons_of_changePlaces r hswap] at h ⊢
      rcases List.infix_cons_iff.mp h with hhead | hlater
      · -- `x` has just been put down, and the one in hand is carried past `y` too
        obtain ⟨rfl, hy⟩ := List.cons_prefix_cons.mp hhead
        rcases settlePass_head hy with rfl | ⟨r', rfl, hz, hbelow⟩
        · exact absurd hswap (changePlaces_asymm hxy)
        · exact ⟨upper, hbelow.cons x, hz, .inl (List.sublist_append_left [upper, x, y] r')⟩
      · obtain ⟨z, hbelow, hz, hbefore⟩ := ih hlater
        have hr : upper :: r <+ upper :: lower :: r := (List.sublist_cons_self lower r).cons_cons _
        exact ⟨z, hbelow.cons lower, hz, hbefore.imp (·.trans hr) (·.trans hr)⟩
    · rw [settlePass_cons_of_not r hswap] at h ⊢
      rcases List.infix_cons_iff.mp h with hhead | hlater
      · -- the one taken up after `x` is carried past `y`
        obtain ⟨rfl, hy⟩ := List.cons_prefix_cons.mp hhead
        rcases settlePass_head hy with rfl | ⟨r', rfl, hz, hbelow⟩
        · exact absurd hxy hswap
        · exact ⟨lower, hbelow.cons x, hz, .inr (List.sublist_append_left [x, lower, y] r')⟩
      · obtain ⟨z, hbelow, hz, hbefore⟩ := ih hlater
        exact ⟨z, hbelow.cons upper, hz, hbefore.imp (·.cons upper) (·.cons upper)⟩

/-- A pass changes nothing exactly if no neighbours may change places. -/
theorem settlePass_eq_iff {upper : Usage} {l : List Usage} :
    settlePass upper l = upper :: l ↔
      ∀ x y, [x, y] <:+: upper :: l → ¬ changePlaces x y = true := by
  induction l generalizing upper with
  | nil => exact iff_of_true rfl fun x y h => absurd h (not_infix_of_length_le (Nat.le_refl 1))
  | cons lower r ih =>
    by_cases hswap : changePlaces upper lower = true
    · rw [settlePass_cons_of_changePlaces r hswap]
      have hpid := (changePlaces_iff.mp hswap).2
      refine iff_of_false (fun heq => ?_) fun h => ?_
      · rw [(List.cons.inj heq).1] at hpid
        exact Int32.lt_irrefl hpid
      · exact h upper lower (List.prefix_append [upper, lower] r).isInfix hswap
    · rw [settlePass_cons_of_not r hswap, List.cons_inj_right, ih]
      refine ⟨fun h x y hxy => ?_, fun h x y hxy => h x y (List.infix_cons hxy)⟩
      rcases List.infix_cons_iff.mp hxy with hhead | hlater
      · obtain ⟨rfl, hy⟩ := List.cons_prefix_cons.mp hhead
        obtain ⟨rfl, -⟩ := List.cons_prefix_cons.mp hy
        exact hswap
      · exact h x y hlater

theorem settle_eq_iff {l : List Usage} :
    settle l = l ↔ ∀ x y, [x, y] <:+: l → ¬ changePlaces x y = true := by
  cases l with
  | nil => exact iff_of_true rfl fun x y h => absurd h (not_infix_of_length_le (Nat.zero_le 1))
  | cons u r => exact settlePass_eq_iff

/-- Of processes with distinct numbers, near ties are in order exactly if no
neighbours may change places. -/
theorem nearTiesByPid_iff {l : List Usage} (hpid : (l.map (·.pid)).Nodup) :
    NearTiesByPid l ↔ ∀ x y, [x, y] <:+: l → ¬ changePlaces x y = true := by
  refine forall_congr' fun x => forall_congr' fun y => imp_congr_right fun h => ?_
  have hne : x.pid ≠ y.pid := by
    have hboth : ([x, y].map (·.pid)).Nodup := hpid.sublist (h.sublist.map _)
    simpa using hboth
  rw [changePlaces_iff]
  refine ⟨fun h hswap => Int32.lt_irrefl (Int32.lt_trans (h hswap.1) hswap.2), fun h htied => ?_⟩
  rcases Int32.lt_or_lt_of_ne hne with hlt | hgt
  · exact hlt
  · exact absurd ⟨htied, hgt⟩ h

theorem nodup_rank {processes : List Usage} (hpid : (processes.map (·.pid)).Nodup) :
    ((rank processes).map (·.pid)).Nodup :=
  (((rank_perm processes).map _).nodup_iff).mpr hpid

/-- What a ranking leaves out of order has come together behind the pass. -/
theorem rank_leaves {processes : List Usage} {x y : Usage} (h : [x, y] <:+: rank processes)
    (hxy : changePlaces x y = true) :
    ∃ z, [y, z] <+ rank processes ∧ changePlaces z y = true ∧
      ([z, x, y] <+ byWeight processes ∨ [x, z, y] <+ byWeight processes) := by
  rw [rank_eq_settle] at h ⊢
  cases hsorted : byWeight processes with
  | nil =>
    rw [hsorted] at h
    exact absurd h (not_infix_of_length_le (Nat.zero_le 1))
  | cons u r =>
    rw [hsorted] at h
    exact settlePass_leaves h hxy

/-- Near ties may be left out of order when processes are ranked once. They are
in order exactly if ranking once more would change nothing. Two neighbours out
of order have had a third between or above them, which the lower one is nearly
tied with; so if no near tie reaches over a process between, all are in order. -/
theorem near_ties_are_settled_once (processes : List Usage)
    (hpid : (processes.map (·.pid)).Nodup) :
    (NearTiesByPid (rank processes) ↔ settle (rank processes) = rank processes) ∧
      (∀ x y, [x, y] <:+: rank processes → NearlyTied x y → y.pid < x.pid →
        ∃ z, [y, z] <+ rank processes ∧ y.pid < z.pid ∧ NearlyTied z y ∧
          ([z, x, y] <+ byWeight processes ∨ [x, z, y] <+ byWeight processes)) ∧
      ((∀ a b c, [a, b, c] <+ byWeight processes → ¬ NearlyTied a c) →
        NearTiesByPid (rank processes)) := by
  refine ⟨(nearTiesByPid_iff (nodup_rank hpid)).trans settle_eq_iff.symm,
    fun x y hnext htied hlt => ?_, fun hclear => ?_⟩
  · obtain ⟨z, hbelow, hz, hbefore⟩ := rank_leaves hnext (changePlaces_iff.mpr ⟨htied, hlt⟩)
    obtain ⟨hzy, hpidz⟩ := changePlaces_iff.mp hz
    exact ⟨z, hbelow, hpidz, hzy, hbefore⟩
  · rw [nearTiesByPid_iff (nodup_rank hpid)]
    intro x y hnext hxy
    obtain ⟨z, -, hz, hbefore | hbefore⟩ := rank_leaves hnext hxy
    · exact hclear z x y hbefore (changePlaces_iff.mp hz).1
    · exact hclear x z y hbefore (changePlaces_iff.mp hxy).1

/-- A pair of near ties, and a process that is far heavier. -/
def pairBelow : List Usage :=
  [⟨30, "a", 9, 0, 0, "", ""⟩, ⟨20, "b", 5.3, 0, 0, "", ""⟩, ⟨10, "c", 5, 0, 0, "", ""⟩]

theorem pairBelow_pairwise : pairBelow.Pairwise fun a b => sortsBefore a b = true := by
  decide +kernel

theorem pair_is_settled_once :
    (pairBelow.map (·.pid)).Nodup ∧ (rank pairBelow).map (·.pid) = [30, 10, 20] ∧
      NearTiesByPid (rank pairBelow) := by
  have hpid : (pairBelow.map (·.pid)).Nodup := by decide +kernel
  obtain ⟨-, -, hclear⟩ := near_ties_are_settled_once pairBelow hpid
  refine ⟨hpid, ?_, hclear fun a b c h => ?_⟩
  · rw [rank_of_pairwise pairBelow_pairwise]
    decide +kernel
  · rw [byWeight_of_pairwise pairBelow_pairwise] at h
    obtain ⟨rfl, -, rfl⟩ : a = pairBelow[0] ∧ b = pairBelow[1] ∧ c = pairBelow[2] := by
      simpa [pairBelow] using h.eq_of_length rfl
    decide +kernel

/-- Three processes of which any two are nearly tied. -/
def crowd : List Usage :=
  [⟨3, "a", 5.2, 0, 0, "", ""⟩, ⟨2, "b", 5.1, 0, 0, "", ""⟩, ⟨1, "c", 5, 0, 0, "", ""⟩]

/-- The same three some time later, when the lightest has become the heaviest. -/
def laterCrowd : List Usage :=
  [⟨1, "c", 5.2, 0, 0, "", ""⟩, ⟨2, "b", 5.1, 0, 0, "", ""⟩, ⟨3, "a", 5, 0, 0, "", ""⟩]

/-- The first is carried past both others, which are left out of order; later
they are in order, so the ranking flickers. -/
theorem crowd_is_left_out_of_order :
    (crowd.map (·.pid)).Nodup ∧ (∀ u ∈ crowd, u.score.isFinite = true) ∧
      (∀ a ∈ crowd ++ laterCrowd, ∀ b ∈ crowd ++ laterCrowd, NearlyTied a b) ∧
      (rank crowd).map (·.pid) = [2, 1, 3] ∧ (rank laterCrowd).map (·.pid) = [1, 2, 3] ∧
      ¬ NearTiesByPid (rank crowd) := by
  have hsorted : crowd.Pairwise fun a b => sortsBefore a b = true := by decide +kernel
  have hlater : laterCrowd.Pairwise fun a b => sortsBefore a b = true := by decide +kernel
  have hfirst : changePlaces crowd[0] crowd[1] = true := by decide +kernel
  have hsecond : changePlaces crowd[0] crowd[2] = true := by decide +kernel
  have hrank : rank crowd = [crowd[1], crowd[2], crowd[0]] := by
    rw [rank_of_pairwise hsorted]
    exact (settlePass_cons_of_changePlaces _ hfirst).trans
      (congrArg (crowd[1] :: ·) (settlePass_cons_of_changePlaces _ hsecond))
  refine ⟨by decide +kernel, by decide +kernel, by decide +kernel, ?_, ?_, fun horder => ?_⟩
  · rw [hrank]
    rfl
  · rw [rank_of_pairwise hlater]
    decide +kernel
  · have hnext : [crowd[1], crowd[2]] <:+: rank crowd := by
      rw [hrank]
      exact (List.prefix_append [crowd[1], crowd[2]] [crowd[0]]).isInfix
    have hpid := horder crowd[1] crowd[2] hnext (by decide +kernel)
    revert hpid
    decide

end HostTelemetry.Proc
