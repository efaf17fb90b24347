/-
What is published of two readings where nothing was counted in between.

The rates are floats, so that a rate of nothing is zero has to be read off
the model of floats: nothing divided by a positive time is the positive
zero, and that is also what it is rounded to.
-/
import HostTelemetry.Network.Counters
import Mathlib.Algebra.Ring.Nat

namespace HostTelemetry.Network

open Float.Model (UnpackedFloat pack)

-- ================================================================ floats

theorem unpack_zero : (0 : Float).toModel.unpack = .zero .positive := rfl

/-- What is greater than zero is an infinity or a finite float, without a
minus. -/
theorem unpack_of_pos {x : Float} (h : 0 < x) :
    x.toModel.unpack = .infinity .positive ∨
      ∃ m e hm, x.toModel.unpack = .finite .positive m e hm := by
  have hlt : (0 : Float).toModel.unpack.lt x.toModel.unpack = true :=
    of_decide_eq_true (p := (0 : Float).toModel < x.toModel) h
  rw [unpack_zero] at hlt
  revert hlt
  cases x.toModel.unpack with
  | notANumber => nofun
  | zero s => nofun
  | infinity s =>
    cases s with
    | positive => exact fun _ => .inl rfl
    | negative => nofun
  | finite s m e hm =>
    cases s with
    | positive => exact fun _ => .inr ⟨m, e, hm, rfl⟩
    | negative => nofun

theorem zero_div_of_pos {x : Float} (h : 0 < x) : 0 / x = 0 := by
  have hquotient : UnpackedFloat.div .binary64 (.zero .positive) x.toModel.unpack
      = .zero .positive := by
    rcases unpack_of_pos h with hx | ⟨m, e, hm, hx⟩
    · rw [hx]
      rfl
    · rw [hx]
      rfl
  have hdiv : 0 / x = .ofModel (pack (UnpackedFloat.div .binary64
      (0 : Float).toModel.unpack x.toModel.unpack)) := rfl
  rw [hdiv, unpack_zero, hquotient]
  rfl

theorem not_le_zero_of_pos {x : Float} (h : 0 < x) : ¬ x ≤ 0 := by
  have hle : x.toModel.unpack.le (.zero .positive) = false := by
    rcases unpack_of_pos h with hx | ⟨m, e, hm, hx⟩
    · rw [hx]
      rfl
    · rw [hx]
      rfl
  intro hx
  have htrue : x.toModel.unpack.le (0 : Float).toModel.unpack = true :=
    of_decide_eq_true (p := x.toModel ≤ (0 : Float).toModel) hx
  rw [unpack_zero, hle] at htrue
  cases htrue

theorem round2_zero : Number.round2 0 = 0 := by decide +kernel

/-- The rate of nothing is zero. -/
theorem rate_zero {secs : Float} (h : 0 < secs) : rate secs 0 = 0 := by
  have hnothing : Float.ofNat 0 = 0 := rfl
  rw [rate, hnothing, zero_div_of_pos h, round2_zero]

-- ================================================================ sides

/-- A class of interfaces. -/
inductive Side where
  | physical
  | virtual

/-- What a network counter counts that should not be. -/
inductive Trouble where
  | rxErrors
  | rxDrops
  | txErrors
  | txDrops

/-- What a class has counted of a trouble. -/
def Counters.of (c : Counters) : Trouble → Nat
  | .rxErrors => c.rxErrors.toNat
  | .rxDrops => c.rxDrops.toNat
  | .txErrors => c.txErrors.toNat
  | .txDrops => c.txDrops.toNat

/-- What is published of a trouble. -/
def Activity.of (a : Activity) : Trouble → Nat
  | .rxErrors => a.rxErrors.toNat
  | .rxDrops => a.rxDrops.toNat
  | .txErrors => a.txErrors.toNat
  | .txDrops => a.txDrops.toNat

/-- The counters of a class. -/
def Sample.of (s : Sample) : Side → Counters
  | .physical => s.physical
  | .virtual => s.virtualSide

/-- What is published of a class; what is left out did nothing. -/
def Report.of (r : Report) : Side → Activity
  | .physical => r.physical
  | .virtual => r.virtualSide.getD {}

/-- Each counter of a class is at most that of another. -/
structure Counters.Below (a b : Counters) : Prop where
  rxBytes : a.rxBytes ≤ b.rxBytes
  txBytes : a.txBytes ≤ b.txBytes
  rxErrors : a.rxErrors ≤ b.rxErrors
  rxDrops : a.rxDrops ≤ b.rxDrops
  txErrors : a.txErrors ≤ b.txErrors
  txDrops : a.txDrops ≤ b.txDrops

theorem Counters.Below.of {a b : Counters} (h : Below a b) (t : Trouble) : a.of t ≤ b.of t := by
  cases t with
  | rxErrors => exact UInt64.le_iff_toNat_le.mp h.rxErrors
  | rxDrops => exact UInt64.le_iff_toNat_le.mp h.rxDrops
  | txErrors => exact UInt64.le_iff_toNat_le.mp h.txErrors
  | txDrops => exact UInt64.le_iff_toNat_le.mp h.txDrops

-- ============================================================== activity

/-- What was counted between two readings has room in a counter. -/
theorem toNat_ofNat_growth (before now : UInt64) :
    (UInt64.ofNat (growth before now)).toNat = now.toNat - before.toNat :=
  UInt64.toNat_ofNat_of_lt (Nat.lt_of_le_of_lt (Nat.sub_le _ _) now.toNat_lt)

theorem growth_of_le {before now : UInt64} (h : now ≤ before) : growth before now = 0 :=
  Nat.sub_eq_zero_of_le (UInt64.le_iff_toNat_le.mp h)

/-- Of a trouble the difference of the counters is published. -/
theorem Activity.of_between {before now : Counters} {secs : Float} (h : 0 < secs) (t : Trouble) :
    (between before now secs).of t = now.of t - before.of t := by
  rw [between, if_neg (not_le_zero_of_pos h)]
  cases t with
  | rxErrors => exact toNat_ofNat_growth ..
  | rxDrops => exact toNat_ofNat_growth ..
  | txErrors => exact toNat_ofNat_growth ..
  | txDrops => exact toNat_ofNat_growth ..

/-- Where no counter has grown nothing is published. -/
theorem Activity.between_of_below {before now : Counters} {secs : Float} (h : 0 < secs)
    (hbelow : now.Below before) : between before now secs = {} := by
  rw [between, if_neg (not_le_zero_of_pos h), growth_of_le hbelow.rxBytes,
    growth_of_le hbelow.txBytes, growth_of_le hbelow.rxErrors, growth_of_le hbelow.rxDrops,
    growth_of_le hbelow.txErrors, growth_of_le hbelow.txDrops, rate_zero h]
  rfl

/-- Nothing is lost by leaving an idle side out. -/
theorem Report.of_ofSides (physical virtualSide : Activity) (t : Trouble) :
    ((Report.ofSides physical virtualSide).of .virtual).of t = virtualSide.of t := by
  unfold Report.ofSides Report.of
  cases hidle : virtualSide.isIdle with
  | false => rfl
  | true =>
    unfold Activity.isIdle at hidle
    simp only [Bool.and_eq_true, beq_iff_eq] at hidle
    obtain ⟨⟨⟨⟨_, hrxErrors⟩, hrxDrops⟩, htxErrors⟩, htxDrops⟩ := hidle
    cases t with
    | rxErrors => simp [Activity.of, hrxErrors]
    | rxDrops => simp [Activity.of, hrxDrops]
    | txErrors => simp [Activity.of, htxErrors]
    | txDrops => simp [Activity.of, htxDrops]

end HostTelemetry.Network
