/-
Interfaces that come and go between two readings, and what this does to the
sums of their class.

# The account

A reading keeps of each class one sum, and two readings are compared by their
sums. Interface by interface, four things can have happened in between: one
that is listed in both readings has counted on (`grown`) or has fallen back
(`fallen`), one has come with what it had counted before (`arrived`), and one
has gone and taken what it had counted with it (`departed`). What the names of a
class show together (`shown`) balances these against each other
(`shown_account`), so what arrives is added to what was counted, and what falls
or departs is taken from it.

A sample has what its class shows together as far as 64 bits go
(`amount_ofText`). The account itself is of the exact sums.

# Sums by name

The account needs the sum of a class as a sum over names. A name may stand in
several lines, and then its lines count together; `sum_counted` regroups the
lines of any list by their names.
-/
import HostTelemetry.Proofs.Network.Rates
import Mathlib.Algebra.BigOperators.Group.Finset.Piecewise

namespace HostTelemetry.Network

-- ================================================================= sides

/-- Anything that a class of interfaces counts. -/
inductive Quantity where
  | rxBytes
  | txBytes
  | trouble (t : Trouble)

def Counters.amount (c : Counters) : Quantity → Nat
  | .rxBytes => c.rxBytes.toNat
  | .txBytes => c.txBytes.toNat
  | .trouble t => c.of t

theorem Counters.amount_lt (c : Counters) (q : Quantity) : c.amount q < 2 ^ 64 := by
  cases q with
  | rxBytes => exact c.rxBytes.toNat_lt
  | txBytes => exact c.txBytes.toNat_lt
  | trouble t => cases t <;> exact UInt64.toNat_lt _

/-- A sum loses what is beyond 64 bits. -/
theorem Counters.amount_add (a b : Counters) (q : Quantity) :
    (a.add b).amount q = (a.amount q + b.amount q) % 2 ^ 64 := by
  cases q with
  | rxBytes => exact UInt64.toNat_add ..
  | txBytes => exact UInt64.toNat_add ..
  | trouble t => cases t <;> exact UInt64.toNat_add ..

deriving instance DecidableEq for Side

/-- The class of an interface. -/
def sideOf (name : List Char) : Side := if isVirtual name then .virtual else .physical

/-- An interface counts in its class and in no other. -/
theorem amount_addInterface (s : Sample) (i : List Char × Counters) (sd : Side) (q : Quantity) :
    ((s.addInterface i).of sd).amount q
      = ((s.of sd).amount q + if sideOf i.1 = sd then i.2.amount q else 0) % 2 ^ 64 := by
  have hother : (s.of sd).amount q = ((s.of sd).amount q + 0) % 2 ^ 64 :=
    (Nat.mod_eq_of_lt (Counters.amount_lt _ q)).symm
  unfold Sample.addInterface sideOf
  by_cases hvirtual : isVirtual i.1
  · rw [if_pos hvirtual, if_pos hvirtual]
    cases sd with
    | physical => exact hother
    | virtual => exact Counters.amount_add ..
  · rw [if_neg hvirtual, if_neg hvirtual]
    cases sd with
    | physical => exact Counters.amount_add ..
    | virtual => exact hother

-- ========================================================== sums by name

/-- The interfaces that a text lists, line by line. -/
def listed (text : List Char) : List (List Char × Counters) :=
  (Text.lines text).filterMap interface?

section Lists

variable (q : Quantity) (l : List (List Char × Counters))

/-- What the lines of a name count together. -/
def countedIn (name : List Char) : Nat := ((l.filter (·.1 = name)).map (·.2.amount q)).sum

theorem countedIn_cons (i : List Char × Counters) (name : List Char) :
    countedIn q (i :: l) name = (if i.1 = name then i.2.amount q else 0) + countedIn q l name := by
  unfold countedIn
  by_cases h : i.1 = name
  · simp [h]
  · simp [h]

/-- The names of a class. -/
def namesIn (sd : Side) : Finset (List Char) := ((l.map (·.1)).filter (sideOf · = sd)).toFinset

theorem mem_namesIn {sd : Side} {name : List Char} :
    name ∈ namesIn l sd ↔ (∃ c, (name, c) ∈ l) ∧ sideOf name = sd := by
  simp [namesIn]

/-- Names that no line has count nothing. -/
theorem sum_counted (sd : Side) (names : Finset (List Char)) (hside : ∀ n ∈ names, sideOf n = sd)
    (hall : namesIn l sd ⊆ names) :
    ∑ n ∈ names, countedIn q l n
      = (l.map fun i => if sideOf i.1 = sd then i.2.amount q else 0).sum := by
  induction l with
  | nil => exact Finset.sum_eq_zero fun n _ => rfl
  | cons i r ih =>
    have hrest : namesIn r sd ⊆ names := by
      intro n hn
      obtain ⟨⟨c, hc⟩, hn⟩ := (mem_namesIn r).mp hn
      exact hall ((mem_namesIn _).mpr ⟨⟨c, List.mem_cons_of_mem i hc⟩, hn⟩)
    have hfirst : i.1 ∈ names ↔ sideOf i.1 = sd :=
      ⟨hside i.1, fun h => hall ((mem_namesIn _).mpr ⟨⟨i.2, List.mem_cons_self⟩, h⟩)⟩
    simp only [countedIn_cons, Finset.sum_add_distrib, Finset.sum_ite_eq, ih hrest, hfirst,
      List.map_cons, List.sum_cons]

/-- A class has the sum over its lines, as far as 64 bits go. -/
theorem amount_foldl (s : Sample) (sd : Side) :
    ((l.foldl Sample.addInterface s).of sd).amount q
      = ((s.of sd).amount q
          + (l.map fun i => if sideOf i.1 = sd then i.2.amount q else 0).sum) % 2 ^ 64 := by
  induction l generalizing s with
  | nil => exact (Nat.mod_eq_of_lt (Counters.amount_lt _ q)).symm
  | cons i r ih =>
    rw [List.foldl_cons, ih, amount_addInterface, Nat.mod_add_mod, List.map_cons, List.sum_cons,
      Nat.add_assoc]

end Lists

-- =============================================================== account

section Account

variable (sd : Side) (q : Quantity)

/-- The interfaces of a class that a text lists. -/
def names (text : List Char) : Finset (List Char) := namesIn (listed text) sd

/-- What a text shows for an interface. -/
def counted (text name : List Char) : Nat := countedIn q (listed text) name

/-- What the interfaces of a class show together. -/
def shown (text : List Char) : Nat := ∑ n ∈ names sd text, counted q text n

/-- A sample has it but for what is beyond 64 bits. -/
theorem amount_ofText (text : List Char) :
    ((Sample.ofText text).of sd).amount q = shown sd q text % 2 ^ 64 := by
  have hempty : (({} : Sample).of sd).amount q = 0 := by
    cases sd <;> cases q with
    | rxBytes => rfl
    | txBytes => rfl
    | trouble t => cases t <;> rfl
  have hsum := sum_counted q (listed text) sd (names sd text)
    (fun n hn => ((mem_namesIn _).mp hn).2) (Finset.Subset.refl _)
  exact (amount_foldl q (listed text) {} sd).trans (by rw [hempty, Nat.zero_add, ← hsum]; rfl)

variable (before now : List Char)

/-- What the interfaces that are listed in both have counted on. -/
def grown : Nat :=
  ∑ n ∈ names sd before ∩ names sd now, (counted q now n - counted q before n)

/-- What the interfaces that are listed in both have fallen back. -/
def fallen : Nat :=
  ∑ n ∈ names sd before ∩ names sd now, (counted q before n - counted q now n)

/-- What the interfaces that are listed only now show. -/
def arrived : Nat := ∑ n ∈ names sd now \ names sd before, counted q now n

/-- What the interfaces that are no longer listed had shown. -/
def departed : Nat := ∑ n ∈ names sd before \ names sd now, counted q before n

/-- What a class shows grows by what has grown and arrived, and shrinks by what
has fallen and departed. -/
theorem shown_account :
    shown sd q now + (fallen sd q before now + departed sd q before now)
      = shown sd q before + (grown sd q before now + arrived sd q before now) := by
  have hboth : (∑ n ∈ names sd before ∩ names sd now, counted q now n) + fallen sd q before now
      = (∑ n ∈ names sd before ∩ names sd now, counted q before n) + grown sd q before now := by
    rw [fallen, grown, ← Finset.sum_add_distrib, ← Finset.sum_add_distrib]
    refine Finset.sum_congr rfl fun n _ => ?_
    omega
  have hnow : (∑ n ∈ names sd before ∩ names sd now, counted q now n) + arrived sd q before now
      = shown sd q now := by
    rw [arrived, Finset.inter_comm]
    exact Finset.sum_inter_add_sum_sdiff ..
  have hbefore : (∑ n ∈ names sd before ∩ names sd now, counted q before n)
      + departed sd q before now = shown sd q before :=
    Finset.sum_inter_add_sum_sdiff ..
  omega

/-- What the difference of two exact sums comes to. -/
def net : Nat :=
  grown sd q before now + arrived sd q before now
    - (fallen sd q before now + departed sd q before now)

theorem shown_sub : shown sd q now - shown sd q before = net sd q before now := by
  have haccount := shown_account sd q before now
  unfold net
  omega

/-- The difference is what has grown exactly if what arrives makes up for what
falls and departs, or nothing has grown and no more arrives than that. -/
theorem net_eq_grown_iff :
    net sd q before now = grown sd q before now ↔
      arrived sd q before now = fallen sd q before now + departed sd q before now ∨
        (grown sd q before now = 0 ∧
          arrived sd q before now ≤ fallen sd q before now + departed sd q before now) := by
  unfold net
  omega

end Account

end HostTelemetry.Network
