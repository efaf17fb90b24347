/-
The account of one cumulative counter over a run of ticks: what is
published at each tick, and what became of the difference between the last
reading and the first.

# The account

At a tick the counter is put beside the reading of the tick before, and a
reading that failed stands for zero. So a counter that can be read again
after that is published from zero on, though something was known of it:
that is what the tick has `forgotten`. A tick at which no time has passed
publishes the figure of the tick before once more, and its own difference
is lost. These three are all that comes between what is published and what
was counted (`account`).
-/
import HostTelemetry.Proofs.Runs

namespace HostTelemetry.Network

-- ================================================================= ticks

/-- A tick, as one counter sees it: whether time has passed since the tick
before, and the reading, if there is one. -/
structure Look where
  later : Bool
  count : Option Nat

/-- What is behind a tick: the reading of the tick before, if there was
one, the last reading that there was, and what the tick before published. -/
structure Past where
  last : Option Nat
  known : Option Nat
  shown : Nat

namespace Look

/-- What the counter seems to have counted since the tick before. -/
def grown (l : Look) (p : Past) : Nat := l.count.getD 0 - p.last.getD 0

/-- What is behind the next tick. -/
def next (l : Look) (p : Past) : Past where
  last := l.count
  known := l.count.or p.known
  shown := if l.later then l.grown p else p.shown

/-- What is published. -/
def published (l : Look) (p : Past) : List Nat := [(l.next p).shown]

/-- What was known of the counter, or else its first reading, where a reading
follows one that failed. -/
def forgotten (l : Look) (p : Past) : List Nat :=
  match p.last, l.count with
  | none, some n => [p.known.getD n]
  | _, _ => []

/-- What is published once more. -/
def repeated (l : Look) (p : Past) : List Nat := if l.later then [] else [p.shown]

/-- What is never published. -/
def swallowed (l : Look) (p : Past) : List Nat := if l.later then [] else [l.grown p]

end Look

-- ============================================================== readings

/-- The readings of a counter that there are. -/
def counts (p : Past) (looks : List Look) : List Nat :=
  p.known.toList ++ looks.filterMap (·.count)

/-- The first of them. -/
def firstCount (p : Past) (looks : List Look) : Nat := (counts p looks).head?.getD 0

/-- The last of them. -/
def lastCount (p : Past) (looks : List Look) : Nat := (counts p looks).getLast?.getD 0

/-- What was read at the tick before is known. -/
def Past.Sound (p : Past) : Prop := ∀ n, p.last = some n → p.known = some n

variable {l : Look} {p : Past} {rest : List Look}

theorem Look.sound_next (l : Look) (p : Past) : (l.next p).Sound := by
  intro n hn
  have hcount : l.count = some n := hn
  show l.count.or p.known = some n
  rw [hcount]
  rfl

theorem counts_next_of_none (hl : l.count = none) : counts (l.next p) rest = counts p (l :: rest) := by
  unfold counts Look.next
  rw [List.filterMap_cons_none hl, hl, Option.none_or]

theorem counts_cons_of_some {n : Nat} (hl : l.count = some n) :
    counts p (l :: rest) = p.known.toList ++ counts (l.next p) rest := by
  unfold counts Look.next
  rw [List.filterMap_cons_some hl, hl, Option.some_or]
  rfl

theorem lastCount_cons : lastCount p (l :: rest) = lastCount (l.next p) rest := by
  unfold lastCount
  cases hl : l.count with
  | none => rw [counts_next_of_none hl]
  | some n =>
    rw [counts_cons_of_some hl, List.getLast?_append]
    have hsome : counts (l.next p) rest = n :: rest.filterMap (·.count) := by
      unfold counts Look.next
      rw [hl]
      rfl
    rw [hsome, List.getLast?_cons]
    rfl

-- =============================================================== account

/-- Every difference is published or swallowed, and every figure is a
difference or a repetition. -/
theorem published_add_swallowed :
    (l.published p).sum + (l.swallowed p).sum = l.grown p + (l.repeated p).sum := by
  unfold Look.published Look.swallowed Look.repeated Look.next
  cases l.later with
  | true => simp
  | false => simp [Nat.add_comm]

/-- A difference takes the account from one reading to the next, but for
what is forgotten. -/
theorem grown_add_firstCount (hs : p.Sound) (hgrow : (counts p (l :: rest)).Pairwise (· ≤ ·)) :
    l.grown p + firstCount p (l :: rest) = firstCount (l.next p) rest + (l.forgotten p).sum := by
  unfold firstCount
  cases hl : l.count with
  | none =>
    have hgrown : l.grown p = 0 := by
      rw [Look.grown, hl]
      exact Nat.zero_sub _
    have hforgotten : l.forgotten p = [] := by
      rw [Look.forgotten, hl]
      cases p.last with
      | none => rfl
      | some b => rfl
    rw [counts_next_of_none hl, hgrown, hforgotten, Nat.zero_add]
    rfl
  | some n =>
    have hsome : counts (l.next p) rest = n :: rest.filterMap (·.count) := by
      unfold counts Look.next
      rw [hl]
      rfl
    rw [counts_cons_of_some hl, hsome] at hgrow ⊢
    cases hp : p.last with
    | some b =>
      rw [hs b hp] at hgrow ⊢
      have hle : b ≤ n := (List.pairwise_cons.mp hgrow).1 n List.mem_cons_self
      have hforgotten : l.forgotten p = [] := by
        rw [Look.forgotten, hl, hp]
      rw [hforgotten, Look.grown, hl, hp]
      show n - b + b = n + 0
      omega
    | none =>
      have hforgotten : l.forgotten p = [p.known.getD n] := by
        rw [Look.forgotten, hl, hp]
      rw [hforgotten, Look.grown, hl, hp]
      cases p.known with
      | none => rfl
      | some u => rfl

/-- What is published, and what is swallowed, is what was counted, what was
forgotten and what is repeated. -/
theorem account {looks : List Look} (hs : p.Sound)
    (hgrow : (counts p looks).Pairwise (· ≤ ·)) :
    (along Look.next Look.published looks p).sum + (along Look.next Look.swallowed looks p).sum
        + firstCount p looks
      = lastCount p looks + (along Look.next Look.forgotten looks p).sum
        + (along Look.next Look.repeated looks p).sum := by
  induction looks generalizing p with
  | nil =>
    show 0 + 0 + firstCount p [] = lastCount p [] + 0 + 0
    unfold firstCount lastCount counts
    cases p.known with
    | none => rfl
    | some n => simp
  | cons l rest ih =>
    have hrest : (counts (l.next p) rest).Pairwise (· ≤ ·) := by
      cases hl : l.count with
      | none =>
        rw [counts_next_of_none hl]
        exact hgrow
      | some n =>
        rw [counts_cons_of_some hl] at hgrow
        exact (List.pairwise_append.mp hgrow).2.1
    have hlater := ih (l.sound_next p) hrest
    have hnow := grown_add_firstCount hs hgrow
    have hsplit := published_add_swallowed (l := l) (p := p)
    rw [sum_along_cons, sum_along_cons, sum_along_cons, sum_along_cons, lastCount_cons]
    omega

/-- The first reading is not above the last. -/
theorem firstCount_le_lastCount {looks : List Look} (hgrow : (counts p looks).Pairwise (· ≤ ·)) :
    firstCount p looks ≤ lastCount p looks := by
  unfold firstCount lastCount
  cases hc : counts p looks with
  | nil => exact Nat.le_refl _
  | cons n more =>
    rw [hc] at hgrow
    rw [List.getLast?_cons]
    cases hm : more.getLast? with
    | none => simp
    | some m =>
      have hle := (List.pairwise_cons.mp hgrow).1 m (List.mem_of_getLast? hm)
      simpa [hm] using hle

/-- What is published stays within what was counted exactly where what is
swallowed makes up for what is forgotten and repeated. -/
theorem published_le_iff {looks : List Look} (hs : p.Sound)
    (hgrow : (counts p looks).Pairwise (· ≤ ·)) :
    (along Look.next Look.published looks p).sum ≤ lastCount p looks - firstCount p looks ↔
      (along Look.next Look.forgotten looks p).sum + (along Look.next Look.repeated looks p).sum
        ≤ (along Look.next Look.swallowed looks p).sum := by
  have haccount := account hs hgrow
  have hle := firstCount_le_lastCount hgrow
  omega

/-- Where time passes at every tick nothing is swallowed or repeated. -/
theorem along_of_later {looks : List Look} (hlater : ∀ l ∈ looks, l.later = true) :
    along Look.next Look.repeated looks p = [] ∧ along Look.next Look.swallowed looks p = [] := by
  induction looks generalizing p with
  | nil => exact ⟨rfl, rfl⟩
  | cons l rest ih =>
    obtain ⟨hl, hrest⟩ := List.forall_mem_cons.mp hlater
    obtain ⟨hrepeated, hswallowed⟩ := ih hrest (p := l.next p)
    constructor
    · show l.repeated p ++ along Look.next Look.repeated rest (l.next p) = []
      rw [hrepeated, Look.repeated, hl]
      rfl
    · show l.swallowed p ++ along Look.next Look.swallowed rest (l.next p) = []
      rw [hswallowed, Look.swallowed, hl]
      rfl

/-- Where time passes at every tick, what is published stays within what was
counted exactly where nothing is forgotten. -/
theorem published_le_iff_of_later {looks : List Look} (hs : p.Sound)
    (hgrow : (counts p looks).Pairwise (· ≤ ·)) (hlater : ∀ l ∈ looks, l.later = true) :
    (along Look.next Look.published looks p).sum ≤ lastCount p looks - firstCount p looks ↔
      ∀ n ∈ along Look.next Look.forgotten looks p, n = 0 := by
  obtain ⟨hrepeated, hswallowed⟩ := along_of_later hlater (p := p)
  rw [published_le_iff hs hgrow, hrepeated, hswallowed, ← List.sum_eq_zero_iff_forall_eq_nat]
  simp

end HostTelemetry.Network
