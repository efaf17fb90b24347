/-
Rounding to a float, on exact numbers.

# Nearest integers

A number has one nearest integer once it is said where halves go
(`NearestEven.unique`, `NearestAway.unique`), so what is computed by shifting
and what is computed by dividing need not be compared: both are nearest.

# What is shifted out

A mantissa that loses bits keeps two of them, the last one lost and whether
any before it was set. They tell on which side of the half the number lies,
however many bits are lost (`Places.shiftRight`), and that is all that rounding
asks for (`Places.nearestEven`). So a result with an accuracy is the rounded
exact number (`sized_roundWithAccuracy`), also when the mantissa is rounded up
to one bit too many.

# What is kept

Rounding does not pass the number of a float (`Rounding.le`, `Rounding.ge`),
keeps such a number (`Rounding.exact`), and otherwise misses by at most half of
the last of 53 bits (`Rounding.near`). Nor does it leave the half unit around
the nearest integer (`Rounding.within_half`), but it may reach its end.
-/
import HostTelemetry.Number.Dyadic
import Mathlib.Algebra.Order.Field.Basic
import Mathlib.Algebra.Order.Field.Power
import Mathlib.Data.Rat.Cast.Order
import Mathlib.Tactic.FieldSimp
import Mathlib.Tactic.Linarith
import Mathlib.Tactic.Positivity
import Mathlib.Tactic.Ring

namespace HostTelemetry.Number

open Float.Model (UnpackedFloat Format totalExponent)
open Float.Model.UnpackedFloat (Sign Accuracy ExtendedMantissa accuracyOfFraction
  shiftToTargetExponent roundWithAccuracy)

variable {v : Rat} {n k : Nat}

-- ======================================================= nearest integers

/-- The natural is nearest to the number, and even if another is as near. -/
structure NearestEven (v : Rat) (n : Nat) : Prop where
  low : (n : Rat) ≤ v + 1 / 2
  high : v ≤ n + 1 / 2
  even : n = v + 1 / 2 ∨ v = n + 1 / 2 → n % 2 = 0

/-- The natural is nearest to the number, and the greater if another is as
near. -/
structure NearestAway (v : Rat) (n : Nat) : Prop where
  low : (n : Rat) ≤ v + 1 / 2
  high : v < n + 1 / 2

theorem nearestEven_of_lt (hlow : (n : Rat) < v + 1 / 2) (hhigh : v < n + 1 / 2) :
    NearestEven v n := by
  refine ⟨hlow.le, hhigh.le, ?_⟩
  intro h
  rcases h with h | h
  · exact absurd h hlow.ne
  · exact absurd h hhigh.ne

theorem nearestEven_natCast (n : Nat) : NearestEven n n :=
  nearestEven_of_lt (by linarith) (by linarith)

theorem nearestAway_natCast (n : Nat) : NearestAway n n := ⟨by linarith, by linarith⟩

/-- An integer that the number does not pass is not passed. -/
theorem NearestEven.le (h : NearestEven v n) (hk : v ≤ k) : n ≤ k := by
  have hlow := h.low
  by_contra hlt
  have hstep : (k : Rat) + 1 ≤ n := by exact_mod_cast Nat.lt_of_not_le hlt
  linarith

theorem NearestEven.ge (h : NearestEven v n) (hk : (k : Rat) ≤ v) : k ≤ n := by
  have hhigh := h.high
  by_contra hlt
  have hstep : (n : Rat) + 1 ≤ k := by exact_mod_cast Nat.lt_of_not_le hlt
  linarith

/-- Of neighbours with the number halfway between, one is odd. -/
theorem NearestEven.not_lt (hn : NearestEven v n) (hk : NearestEven v k) : ¬ n < k := by
  intro h
  have hstep : (n : Rat) + 1 ≤ k := by exact_mod_cast h
  have hhigh := hn.high
  have hlow := hk.low
  have hnext : k = n + 1 := by
    have heq : (k : Rat) = (n + 1 : Nat) := by
      push_cast
      linarith
    exact_mod_cast heq
  have hn2 := hn.even (.inr (by linarith))
  have hk2 := hk.even (.inl (by linarith))
  omega

theorem NearestEven.unique (hn : NearestEven v n) (hk : NearestEven v k) : n = k :=
  Nat.le_antisymm (Nat.le_of_not_lt (hk.not_lt hn)) (Nat.le_of_not_lt (hn.not_lt hk))

theorem NearestAway.not_lt (hn : NearestAway v n) (hk : NearestAway v k) : ¬ n < k := by
  intro h
  have hstep : (n : Rat) + 1 ≤ k := by exact_mod_cast h
  have hhigh := hn.high
  have hlow := hk.low
  linarith

theorem NearestAway.unique (hn : NearestAway v n) (hk : NearestAway v k) : n = k :=
  Nat.le_antisymm (Nat.le_of_not_lt (hk.not_lt hn)) (Nat.le_of_not_lt (hn.not_lt hk))

-- ====================================================== nearest by division

section Division

variable {a b r : Nat}

/-- What division leaves is a fraction of the divisor. -/
theorem div_eq_add_rem (a : Nat) (hb : 0 < b) : (a : Rat) / b = (a / b : Nat) + (a % b : Nat) / b := by
  have hb' : (b : Rat) ≠ 0 := Nat.cast_ne_zero.mpr hb.ne'
  have hdiv : ((b * (a / b) + a % b : Nat) : Rat) = a := by rw [Nat.div_add_mod]
  push_cast at hdiv
  field_simp
  linarith

theorem rem_div_nonneg (r b : Nat) : (0 : Rat) ≤ r / b := div_nonneg r.cast_nonneg b.cast_nonneg

theorem rem_div_lt_one (hb : 0 < b) (hr : r < b) : (r : Rat) / b < 1 :=
  (div_lt_one (Nat.cast_pos.mpr hb)).mpr (Nat.cast_lt.mpr hr)

theorem rem_div_lt_half (hb : 0 < b) (hr : 2 * r < b) : (r : Rat) / b < 1 / 2 := by
  rw [div_lt_iff₀ (Nat.cast_pos.mpr hb)]
  have hr' : ((2 * r : Nat) : Rat) < b := Nat.cast_lt.mpr hr
  push_cast at hr'
  linarith

theorem half_lt_rem_div (hb : 0 < b) (hr : b < 2 * r) : 1 / 2 < (r : Rat) / b := by
  rw [lt_div_iff₀ (Nat.cast_pos.mpr hb)]
  have hr' : (b : Rat) < (2 * r : Nat) := Nat.cast_lt.mpr hr
  push_cast at hr'
  linarith

theorem rem_div_eq_half (hb : 0 < b) (hr : 2 * r = b) : (r : Rat) / b = 1 / 2 := by
  have hb' : (b : Rat) ≠ 0 := Nat.cast_ne_zero.mpr hb.ne'
  rw [div_eq_iff hb', ← hr]
  push_cast
  ring

theorem nearestEven_roundDiv (a : Nat) (hb : 0 < b) :
    NearestEven (a / b) (roundDiv .toEven a b) := by
  rw [div_eq_add_rem a hb]
  have hone := rem_div_lt_one hb (Nat.mod_lt a hb)
  have hnonneg := rem_div_nonneg (a % b) b
  simp only [roundDiv]
  split
  · rename_i hless
    have hless' := rem_div_lt_half hb hless
    exact nearestEven_of_lt (by linarith) (by linarith)
  · split
    · rename_i hmore
      have hmore' := half_lt_rem_div hb hmore
      exact nearestEven_of_lt (by push_cast; linarith) (by push_cast; linarith)
    · rw [rem_div_eq_half hb (by omega)]
      split
      · rename_i heven
        exact ⟨by linarith, by linarith, fun _ => heven⟩
      · rename_i hodd
        exact ⟨by push_cast; linarith, by push_cast; linarith, fun _ => by omega⟩

theorem nearestAway_roundDiv (a : Nat) (hb : 0 < b) :
    NearestAway (a / b) (roundDiv .awayFromZero a b) := by
  rw [div_eq_add_rem a hb]
  have hone := rem_div_lt_one hb (Nat.mod_lt a hb)
  have hnonneg := rem_div_nonneg (a % b) b
  simp only [roundDiv]
  split
  · rename_i hless
    have hless' := rem_div_lt_half hb hless
    exact ⟨by linarith, by linarith⟩
  · split
    · rename_i hmore
      have hmore' := half_lt_rem_div hb hmore
      exact ⟨by push_cast; linarith, by push_cast; linarith⟩
    · rw [rem_div_eq_half hb (by omega)]
      exact ⟨by push_cast; linarith, by push_cast; linarith⟩

end Division

-- ==================================================== bits that are cut off

variable {em : ExtendedMantissa}

/-- The mantissa with its two bits tells where the number lies: on the
mantissa or below, on or above the half after it. -/
def Places (em : ExtendedMantissa) (v : Rat) : Prop :=
  match em.roundBit, em.stickyBit with
  | false, false => v = em.mantissa
  | false, true => em.mantissa < v ∧ v < em.mantissa + 1 / 2
  | true, false => v = em.mantissa + 1 / 2
  | true, true => em.mantissa + 1 / 2 < v ∧ v < em.mantissa + 1

/-- A mantissa with an accuracy tells where the number lies. -/
def PlacesWith (m : Nat) (acc : Accuracy) (v : Rat) : Prop :=
  Places (ExtendedMantissa.ofMantissaAndAccuracy m acc) v

theorem placesWith_exact (m : Nat) : PlacesWith m .exact m := rfl

/-- A quotient without its rest, with the place of the rest. -/
theorem placesWith_div (a : Nat) {b : Nat} (hb : 0 < b) :
    PlacesWith (a / b) (accuracyOfFraction (a % b) b) (a / b) := by
  have hone := rem_div_lt_one hb (Nat.mod_lt a hb)
  rw [div_eq_add_rem a hb]
  generalize a / b = q
  generalize a % b = r at *
  unfold accuracyOfFraction
  by_cases hr : r = 0
  · rw [if_pos hr, hr, Nat.cast_zero, zero_div, add_zero]
    exact placesWith_exact q
  · have hpos : (0 : Rat) < r / b :=
      div_pos (Nat.cast_pos.mpr (Nat.pos_of_ne_zero hr)) (Nat.cast_pos.mpr hb)
    rw [if_neg hr]
    rcases Nat.lt_trichotomy (2 * r) b with h | h | h
    · have hhalf := rem_div_lt_half hb h
      rw [Nat.compare_eq_lt.mpr h]
      exact ⟨by show (q : Rat) < _; linarith, by show _ < (q : Rat) + 1 / 2; linarith⟩
    · rw [Nat.compare_eq_eq.mpr h, rem_div_eq_half hb h]
      exact rfl
    · have hhalf := half_lt_rem_div hb h
      rw [Nat.compare_eq_gt.mpr h]
      exact ⟨by show (q : Rat) + 1 / 2 < _; linarith, by show _ < (q : Rat) + 1; linarith⟩

theorem Places.bounds (h : Places em v) : (em.mantissa : Rat) ≤ v ∧ v < em.mantissa + 1 := by
  rcases em with ⟨m, _ | _, _ | _⟩
  · have heq : v = m := h
    exact ⟨heq.ge, by show v < (m : Rat) + 1; linarith⟩
  · obtain ⟨hlow, hhigh⟩ : (m : Rat) < v ∧ v < m + 1 / 2 := h
    exact ⟨hlow.le, by show v < (m : Rat) + 1; linarith⟩
  · have heq : v = m + 1 / 2 := h
    exact ⟨by show (m : Rat) ≤ v; linarith, by show v < (m : Rat) + 1; linarith⟩
  · obtain ⟨hlow, hhigh⟩ : (m : Rat) + 1 / 2 < v ∧ v < m + 1 := h
    exact ⟨by show (m : Rat) ≤ v; linarith, hhigh⟩

theorem Places.nearestEven (h : Places em v) : NearestEven v em.roundedMantissa := by
  rcases em with ⟨m, _ | _, _ | _⟩
  · have heq : v = m := h
    rw [heq]
    exact nearestEven_natCast m
  · obtain ⟨hlow, hhigh⟩ : (m : Rat) < v ∧ v < m + 1 / 2 := h
    show NearestEven v m
    exact nearestEven_of_lt (by linarith) hhigh
  · have heq : v = m + 1 / 2 := h
    show NearestEven v (m + m % 2)
    rw [heq]
    rcases Nat.mod_two_eq_zero_or_one m with hm | hm
    · rw [hm, add_zero]
      exact ⟨by linarith, le_rfl, fun _ => hm⟩
    · rw [hm]
      exact ⟨by push_cast; linarith, by push_cast; linarith, fun _ => by omega⟩
  · obtain ⟨hlow, hhigh⟩ : (m : Rat) + 1 / 2 < v ∧ v < m + 1 := h
    show NearestEven v (m + 1)
    exact nearestEven_of_lt (by push_cast; linarith) (by push_cast; linarith)

/-- Cutting off a bit halves the number. -/
theorem Places.shiftRightOne (h : Places em v) : Places em.shiftRightOne (v / 2) := by
  rcases em with ⟨m, r, s⟩
  have hm : ((2 * (m / 2) + m % 2 : Nat) : Rat) = m := by rw [Nat.div_add_mod]
  push_cast at hm
  have hbit : ((m % 2 : Nat) : Rat) = 0 ∧ (m % 2 != 0) = false
      ∨ ((m % 2 : Nat) : Rat) = 1 ∧ (m % 2 != 0) = true := by
    rcases Nat.mod_two_eq_zero_or_one m with h | h <;> simp [h]
  unfold Places ExtendedMantissa.shiftRightOne
  unfold Places at h
  dsimp only at *
  rcases hbit with ⟨hzero, hbit⟩ | ⟨hone, hbit⟩
  · rw [hbit]
    cases r <;> cases s <;> simp only [Bool.or_false, Bool.or_true] at *
    · linarith
    · constructor <;> linarith
    · constructor <;> linarith
    · constructor <;> linarith
  · rw [hbit]
    cases r <;> cases s <;> simp only [Bool.or_false, Bool.or_true] at *
    · linarith
    · constructor <;> linarith
    · constructor <;> linarith
    · constructor <;> linarith

theorem Places.shiftRight (h : Places em v) (k : Nat) : Places (em >>> k) (v / 2 ^ k) := by
  show Places (k.repeat ExtendedMantissa.shiftRightOne em) _
  induction k with
  | zero =>
    rw [pow_zero, div_one]
    exact h
  | succ k ih =>
    rw [Nat.repeat, pow_succ, ← div_div]
    exact ih.shiftRightOne

-- ============================================================ powers of two

theorem zpow_pos_two (e : Int) : (0 : Rat) < 2 ^ e := zpow_pos two_pos e

theorem two_zpow_add (e k : Int) : (2 : Rat) ^ (e + k) = 2 ^ e * 2 ^ k := zpow_add₀ two_ne_zero e k

theorem exponentBit_mul_zpow (e : Int) : (exponentBit : Rat) * 2 ^ e = 2 ^ (e + 52) := by
  rw [two_zpow_add, mul_comm]
  norm_num [exponentBit]

-- ============================================== rounding to 53 bits or fewer

variable {m : Nat} {e : Int} {acc : Accuracy}

/-- What rounding makes of a number that is not negative: the exponent has
the mantissa in 53 bits, unless it is the least one, and the mantissa is
nearest. A mantissa that is rounded up may take a bit more. -/
structure Rounding (v : Rat) (m : Nat) (e : Int) : Prop where
  least : -1074 ≤ e
  width : v < 2 ^ (e + 53)
  full : e = -1074 ∨ (2 : Rat) ^ (e + 52) ≤ v
  nearest : NearestEven (v / 2 ^ e) m

/-- The unpacked float has the sign and the size, and its mantissa is one
that bits can give. -/
inductive Sized (s : Sign) : UnpackedFloat → Rat → Prop
  | zero : Sized s (.zero s) 0
  | finite (m : Nat) (e : Int) (hm : 0 < m) (hleast : -1074 ≤ e) (hwidth : m < 2 * exponentBit)
      (hfull : e = -1074 ∨ exponentBit ≤ m) : Sized s (.finite s m e hm) (m * 2 ^ e)

theorem targetExponent_eq (m : Nat) (e : Int) :
    Format.binary64.targetExponent (totalExponent m e) = max ((m.log2 : Int) + e - 52) (-1074) := by
  show max ((m.log2 : Int) + 1 + e - 53) (-1074) = _
  omega

theorem shiftToTargetExponent_eq (acc : Accuracy)
    (hk : (max ((m.log2 : Int) + e - 52) (-1074) - e).toNat = k) :
    shiftToTargetExponent .binary64 m e acc
      = (ExtendedMantissa.ofMantissaAndAccuracy m acc >>> k, e + k) := by
  rw [← targetExponent_eq] at hk
  rw [← hk]
  rfl

/-- The first shift leaves the exponent for which the mantissa has 53 bits. -/
theorem rounding_shiftToTargetExponent (h : PlacesWith m acc (v / 2 ^ e))
    (he : e ≤ -1074 ∨ exponentBit ≤ m) :
    Rounding v (shiftToTargetExponent .binary64 m e acc).1.roundedMantissa
      (shiftToTargetExponent .binary64 m e acc).2 := by
  have hm : (ExtendedMantissa.ofMantissaAndAccuracy m acc).mantissa = m := by
    cases acc with
    | exact => rfl
    | inexact o => cases o <;> rfl
  obtain ⟨hlow, hhigh⟩ := Places.bounds h
  rw [hm] at hlow hhigh
  rw [le_div_iff₀ (zpow_pos_two e)] at hlow
  rw [div_lt_iff₀ (zpow_pos_two e)] at hhigh
  obtain ⟨k, hk⟩ : ∃ k : Nat, max ((m.log2 : Int) + e - 52) (-1074) = e + k := by
    refine ⟨(max ((m.log2 : Int) + e - 52) (-1074) - e).toNat, ?_⟩
    rcases he with he | he
    · omega
    · have hlog : 52 ≤ m.log2 := (Nat.le_log2 (by simp only [exponentBit] at he; omega)).mpr he
      omega
  rw [shiftToTargetExponent_eq acc (k := k) (by omega)]
  refine ⟨by dsimp only; omega, ?_, ?_, ?_⟩
  · have hlt : m + 1 ≤ 2 ^ (m.log2 + 1) := Nat.lt_log2_self
    calc v < (m + 1) * 2 ^ e := hhigh
      _ ≤ 2 ^ ((m.log2 : Int) + 1) * 2 ^ e := by
        refine mul_le_mul_of_nonneg_right ?_ (zpow_pos_two e).le
        exact_mod_cast hlt
      _ = 2 ^ ((m.log2 : Int) + 1 + e) := (two_zpow_add _ _).symm
      _ ≤ 2 ^ (e + k + 53) := zpow_le_zpow_right₀ one_le_two (by omega)
  · by_cases hleast : e + (k : Int) = -1074
    · exact .inl hleast
    · have hpos : m ≠ 0 := by
        rintro rfl
        have hlog : (0 : Nat).log2 = 0 := rfl
        rw [hlog] at hk
        simp only [exponentBit] at he
        omega
      right
      calc (2 : Rat) ^ (e + k + 52) = 2 ^ ((m.log2 : Int) + e) := by
            congr 1
            omega
        _ = 2 ^ (m.log2 : Int) * 2 ^ e := two_zpow_add _ _
        _ ≤ m * 2 ^ e := by
          refine mul_le_mul_of_nonneg_right ?_ (zpow_pos_two e).le
          exact_mod_cast Nat.log2_self_le hpos
        _ ≤ v := hlow
  · dsimp only
    rw [two_zpow_add, zpow_natCast, ← div_div]
    exact (Places.shiftRight h k).nearestEven

theorem Rounding.mantissa_le (h : Rounding v m e) : m ≤ 2 * exponentBit := by
  have hwidth := h.width
  rw [two_zpow_add, mul_comm] at hwidth
  refine h.nearest.le ?_
  rw [div_le_iff₀ (zpow_pos_two e)]
  exact hwidth.le.trans_eq (by norm_num [exponentBit])

theorem Rounding.exponentBit_le (h : Rounding v m e) (hv : (2 : Rat) ^ (e + 52) ≤ v) :
    exponentBit ≤ m := by
  refine h.nearest.ge ?_
  rw [le_div_iff₀ (zpow_pos_two e), exponentBit_mul_zpow]
  exact hv

/-- A mantissa of at most 53 bits is shifted no more. -/
theorem shift_of_width (hm : m < 2 * exponentBit) (he : -1074 ≤ e) :
    shiftToTargetExponent .binary64 m e .exact = (⟨m, false, false⟩, e) := by
  have hlog : m.log2 ≤ 52 := by
    by_cases hzero : m = 0
    · rw [hzero]
      exact Nat.zero_le _
    · exact Nat.le_of_lt_succ ((Nat.log2_lt hzero).mpr hm)
  rw [shiftToTargetExponent_eq .exact (k := 0) (by omega), Nat.cast_zero, add_zero]
  rfl

/-- A mantissa that was rounded up to 54 bits is shifted by one, which cuts
off nothing. -/
theorem shift_of_carry (he : -1074 ≤ e) :
    shiftToTargetExponent .binary64 (2 * exponentBit) e .exact
      = (⟨exponentBit, false, false⟩, e + 1) := by
  have hlog : (2 * exponentBit).log2 = 53 := by decide +kernel
  rw [shiftToTargetExponent_eq .exact (k := 1) (by omega)]
  rfl

/-- A mantissa with an accuracy is rounded once, as the exact number is. -/
theorem sized_roundWithAccuracy (s : Sign) (h : PlacesWith m acc (v / 2 ^ e))
    (he : e ≤ -1074 ∨ exponentBit ≤ m) :
    ∃ n t, Rounding v n t ∧ Sized s (roundWithAccuracy .binary64 s m e acc) (n * 2 ^ t) := by
  have hround := rounding_shiftToTargetExponent h he
  refine ⟨_, _, hround, ?_⟩
  unfold roundWithAccuracy
  generalize shiftToTargetExponent .binary64 m e acc = first at *
  obtain ⟨em, t⟩ := first
  dsimp only at *
  have hwidth := hround.mantissa_le
  have hfull := hround.full.imp_right hround.exponentBit_le
  generalize em.roundedMantissa = n at *
  rcases Nat.lt_or_eq_of_le hwidth with hlt | rfl
  · rw [shift_of_width hlt hround.least]
    dsimp only
    by_cases hzero : n = 0
    · rw [dif_pos hzero, hzero, Nat.cast_zero, zero_mul]
      exact .zero
    · rw [dif_neg hzero]
      exact .finite n t _ hround.least hlt hfull
  · have hleast := hround.least
    have hsame : ((2 * exponentBit : Nat) : Rat) * 2 ^ t = exponentBit * 2 ^ (t + 1) := by
      rw [two_zpow_add, zpow_one]
      push_cast
      ring
    rw [shift_of_carry hleast, hsame]
    dsimp only
    rw [dif_neg (by decide)]
    exact .finite exponentBit (t + 1) _ (by omega) (by decide) (.inr le_rfl)

theorem rounding_zero : Rounding 0 0 (-1074) where
  least := le_rfl
  width := zpow_pos_two _
  full := .inl rfl
  nearest := by
    rw [zero_div]
    exact nearestEven_natCast 0

-- ======================================================= what rounding keeps

/-- The number is that of a float, if it is not too large. -/
def OnGrid (r : Rat) : Prop := ∃ (m : Nat) (e : Int), m ≤ 2 * exponentBit ∧ -1074 ≤ e ∧ r = m * 2 ^ e

variable {r : Rat}

/-- A number on a finer grid than that of the exponent is small. -/
theorem OnGrid.small_or_multiple (hr : OnGrid r) (e : Int) :
    (e ≠ -1074 ∧ r ≤ 2 ^ (e + 52)) ∨ ∃ k : Nat, r = k * 2 ^ e := by
  obtain ⟨m', e', hm', hleast, rfl⟩ := hr
  rcases lt_or_ge e' e with hlt | hge
  · refine .inl ⟨by omega, ?_⟩
    calc (m' : Rat) * 2 ^ e' ≤ (2 * exponentBit : Nat) * 2 ^ (e - 1) := by
          refine mul_le_mul (Nat.cast_le.mpr hm') ?_ (zpow_pos_two e').le (Nat.cast_nonneg _)
          exact zpow_le_zpow_right₀ one_le_two (by omega)
      _ = 2 ^ (e + 52) := by
          rw [← exponentBit_mul_zpow, zpow_sub₀ two_ne_zero]
          push_cast
          ring
  · obtain ⟨k, rfl⟩ : ∃ k : Nat, e' = e + k := ⟨(e' - e).toNat, by omega⟩
    refine .inr ⟨m' * 2 ^ k, ?_⟩
    rw [two_zpow_add, zpow_natCast]
    push_cast
    ring

theorem onGrid_natCast (hn : n ≤ 2 * exponentBit) : OnGrid n :=
  ⟨n, 0, hn, by omega, by rw [zpow_zero, mul_one]⟩

/-- A float that the number reaches is reached by the rounded number. -/
theorem Rounding.ge (h : Rounding v m e) (hr : OnGrid r) (hrv : r ≤ v) : r ≤ m * 2 ^ e := by
  rcases hr.small_or_multiple e with ⟨hne, hsmall⟩ | ⟨k, rfl⟩
  · have hm := h.exponentBit_le (h.full.resolve_left hne)
    calc r ≤ 2 ^ (e + 52) := hsmall
      _ = exponentBit * 2 ^ e := (exponentBit_mul_zpow e).symm
      _ ≤ m * 2 ^ e := mul_le_mul_of_nonneg_right (Nat.cast_le.mpr hm) (zpow_pos_two e).le
  · refine mul_le_mul_of_nonneg_right (Nat.cast_le.mpr (h.nearest.ge ?_)) (zpow_pos_two e).le
    rwa [le_div_iff₀ (zpow_pos_two e)]

/-- A float that the number does not pass is not passed by the rounded
number. -/
theorem Rounding.le (h : Rounding v m e) (hr : OnGrid r) (hvr : v ≤ r) : m * 2 ^ e ≤ r := by
  rcases hr.small_or_multiple e with ⟨hne, hsmall⟩ | ⟨k, rfl⟩
  · have hm : m ≤ exponentBit := by
      refine h.nearest.le ?_
      rw [div_le_iff₀ (zpow_pos_two e), exponentBit_mul_zpow]
      exact hvr.trans hsmall
    calc (m : Rat) * 2 ^ e ≤ exponentBit * 2 ^ e :=
          mul_le_mul_of_nonneg_right (Nat.cast_le.mpr hm) (zpow_pos_two e).le
      _ = 2 ^ (e + 52) := exponentBit_mul_zpow e
      _ ≤ v := h.full.resolve_left hne
      _ ≤ r := hvr
  · refine mul_le_mul_of_nonneg_right (Nat.cast_le.mpr (h.nearest.le ?_)) (zpow_pos_two e).le
    rwa [div_le_iff₀ (zpow_pos_two e)]

theorem Rounding.exact (h : Rounding v m e) (hv : OnGrid v) : m * 2 ^ e = v :=
  le_antisymm (h.le hv le_rfl) (h.ge hv le_rfl)

/-- Up to a power of two the rounded number is within half of the last of
53 bits. -/
theorem Rounding.near (h : Rounding v m e) {k : Int} (hk : -1021 ≤ k) (hv : v ≤ 2 ^ k) :
    m * 2 ^ e ≤ v + 2 ^ (k - 54) ∧ v ≤ m * 2 ^ e + 2 ^ (k - 54) := by
  have hpos := zpow_pos_two (k - 54)
  rcases hv.lt_or_eq with hlt | heq
  · have he : e ≤ k - 53 := by
      rcases h.full with hleast | hfull
      · omega
      · have hexp : e + 52 < k := (zpow_lt_zpow_iff_right₀ one_lt_two).mp (hfull.trans_lt hlt)
        omega
    have hulp : (2 : Rat) ^ e ≤ 2 * 2 ^ (k - 54) := by
      rw [← zpow_one_add₀ two_ne_zero]
      exact zpow_le_zpow_right₀ one_le_two (by omega)
    have hmul : v / 2 ^ e * 2 ^ e = v := div_mul_cancel₀ v (zpow_pos_two e).ne'
    have hlow := mul_le_mul_of_nonneg_right h.nearest.low (zpow_pos_two e).le
    have hhigh := mul_le_mul_of_nonneg_right h.nearest.high (zpow_pos_two e).le
    rw [add_mul, hmul] at hlow
    rw [add_mul, hmul] at hhigh
    constructor <;> linarith
  · have hgrid : OnGrid v := ⟨1, k, by decide, by omega, by rw [heq, Nat.cast_one, one_mul]⟩
    rw [h.exact hgrid]
    constructor <;> linarith

/-- From 2^52 on the rounded number is whole. -/
theorem Rounding.exponent_nonneg (h : Rounding v m e) (hv : exponentBit ≤ v) : 0 ≤ e := by
  have hbit : (exponentBit : Rat) = 2 ^ (52 : Int) := by norm_num [exponentBit]
  rw [hbit] at hv
  have hlt : (52 : Int) < e + 53 := (zpow_lt_zpow_iff_right₀ one_lt_two).mp (hv.trans_lt h.width)
  omega

/-- Between 2^52 and 2^53 rounding is to the nearest integer. -/
theorem Rounding.eq_nearest (h : Rounding v m e) (hn : NearestEven v n) (hlow : exponentBit ≤ v)
    (hhigh : v < 2 * exponentBit) : (m : Rat) * 2 ^ e = n := by
  have hnonneg := h.exponent_nonneg hlow
  have hexp : e + 52 < 53 := by
    have hfull := h.full.resolve_left (by omega)
    refine (zpow_lt_zpow_iff_right₀ one_lt_two).mp (hfull.trans_lt (hhigh.trans_eq ?_))
    norm_num [exponentBit]
  obtain rfl : e = 0 := by omega
  have hnear := h.nearest
  rw [zpow_zero, div_one] at hnear
  rw [hnear.unique hn, zpow_zero, mul_one]

/-- Below 2^52 the ends of the half unit around the nearest integer are
floats, and above there are none between integers. -/
theorem Rounding.within_half (h : Rounding v m e) (hn : NearestEven v n)
    (hv : v < 2 * exponentBit) :
    (n : Rat) ≤ m * 2 ^ e + 1 / 2 ∧ m * 2 ^ e ≤ (n : Rat) + 1 / 2 := by
  rcases le_or_gt (exponentBit : Rat) v with hlarge | hsmall
  · rw [h.eq_nearest hn hlarge hv]
    exact ⟨by linarith, by linarith⟩
  · have hlow := hn.low
    have hhigh := hn.high
    have hle : n ≤ exponentBit := hn.le hsmall.le
    have hhalf : (2 : Rat) ^ (-1 : Int) = 1 / 2 := by norm_num
    constructor
    · rcases Nat.eq_zero_or_pos n with rfl | hpos
      · have hnonneg : 0 ≤ (m : Rat) * 2 ^ e := mul_nonneg m.cast_nonneg (zpow_pos_two e).le
        rw [Nat.cast_zero]
        linarith
      · have hpred : ((2 * n - 1 : Nat) : Rat) = 2 * n - 1 := by
          rw [Nat.cast_sub (by omega)]
          push_cast
          rfl
        have hgrid : OnGrid (n - 1 / 2) := by
          refine ⟨2 * n - 1, -1, by omega, by omega, ?_⟩
          rw [hpred, hhalf]
          ring
        have hge := h.ge hgrid (by linarith)
        linarith
    · rcases Nat.lt_or_eq_of_le hle with hlt | heq
      · have hgrid : OnGrid (n + 1 / 2) := by
          refine ⟨2 * n + 1, -1, by omega, by omega, ?_⟩
          rw [hhalf]
          push_cast
          ring
        exact h.le hgrid hhigh
      · have hgrid : OnGrid n := onGrid_natCast (by omega)
        have hreach := h.le hgrid (by rw [heq]; exact hsmall.le)
        linarith

end HostTelemetry.Number
