/-
Floats in two orders: as numbers, and as patterns of bits.

# What a pattern stands for

A pattern of bits is a sign above an exponent above a mantissa, and the
mantissa has one bit more than is written unless the exponent is the least
(`Stands`, `stands_unpack`). Read as one natural number, exponent and
mantissa stand in the order of the numbers of one sign. With the sign it is
the number's `weight`, in which both zeros are nothing, and comparing floats
is comparing weights (`compare_eq_weight`).

# What a list can be sorted by

`orderKey` is the weight, except that patterns with a minus come one place
earlier. So a list in the descending order of the keys is in the descending
order of the numbers (`orderKey_lt`), and it tells the zeros apart.

Of two finite numbers one is below the other, or nothing is left when one
is taken from the other (`lt_or_lt_or_abs_sub`), and it does not matter which
(`abs_sub_comm`).
-/
import HostTelemetry.Number.Dyadic

namespace HostTelemetry.Number

open Float.Model (UnpackedFloat Format pack)
open Float.Model.UnpackedFloat (Sign)

-- ======================================================= parts of patterns

theorem toNat_unpackMantissa (b : BitVec Format.binary64.numBits) :
    (UnpackedFloat.unpackMantissa b).toNat = b.toNat % exponentBit := by
  show (BitVec.cast _ (BitVec.extractLsb 51 0 b)).toNat = _
  rw [BitVec.toNat_cast, BitVec.extractLsb_toNat]
  rfl

theorem toNat_unpackExponent (b : BitVec Format.binary64.numBits) :
    (UnpackedFloat.unpackExponent b).toNat = b.toNat / exponentBit % 2048 := by
  show (BitVec.cast _ (BitVec.extractLsb 62 52 b)).toNat = _
  rw [BitVec.toNat_cast, BitVec.extractLsb_toNat, Nat.shiftRight_eq_div_pow]
  rfl

theorem toNat_unpackSign (b : BitVec Format.binary64.numBits) :
    (UnpackedFloat.unpackSign b).toNat = b.toNat / signBit % 2 := by
  show (BitVec.cast _ (BitVec.extractLsb 63 63 b)).toNat = _
  rw [BitVec.toNat_cast, BitVec.extractLsb_toNat, Nat.shiftRight_eq_div_pow]
  rfl

theorem ofBitVec_unpackSign (b : BitVec Format.binary64.numBits) :
    Sign.ofBitVec (UnpackedFloat.unpackSign b)
      = if b.toNat < signBit then .positive else .negative := by
  have hlt : b.toNat < 2 ^ 64 := b.isLt
  unfold Sign.ofBitVec
  congr 1
  rw [← BitVec.toNat_inj, toNat_unpackSign, eq_iff_iff]
  simp only [signBit, BitVec.toNat_ofNat]
  omega

theorem toNat_one_append (b : BitVec Format.binary64.numBits) :
    (1#1 ++ UnpackedFloat.unpackMantissa b).toNat = exponentBit + b.toNat % exponentBit := by
  have hlt := (UnpackedFloat.unpackMantissa b).isLt
  rw [BitVec.toNat_append, ← Nat.shiftLeft_add_eq_or_of_lt hlt, toNat_unpackMantissa]
  rfl

-- ============================================== what a pattern stands for

/-- The bits of an exponent and a mantissa. -/
def code (m : Nat) (e : Int) : Nat := (e + 1074).toNat * exponentBit + m

/-- The bits of an infinity. -/
def infinityCode : Nat := 0x7FF * exponentBit

/-- Bits below a sign. -/
def signed (s : Sign) (n : Nat) : Nat :=
  match s with
  | .positive => n
  | .negative => signBit + n

/-- A mantissa and an exponent as bits give them: the mantissa is full,
unless the exponent is the least. -/
structure Fits (m : Nat) (e : Int) : Prop where
  low : -1074 ≤ e
  high : e ≤ 971
  width : m < 2 * exponentBit
  full : e = -1074 ∨ exponentBit ≤ m

/-- What a pattern of bits stands for. -/
inductive Stands (n : Nat) : UnpackedFloat → Prop
  | notANumber : Stands n .notANumber
  | infinity (s : Sign) (hn : n = signed s infinityCode) : Stands n (.infinity s)
  | zero (s : Sign) (hn : n = signed s 0) : Stands n (.zero s)
  | finite (s : Sign) (m : Nat) (e : Int) (hm : 0 < m) (hfits : Fits m e)
      (hn : n = signed s (code m e)) : Stands n (.finite s m e hm)

theorem eq_signed {n : Nat} (h : n < 2 * signBit) :
    n = signed (if n < signBit then .positive else .negative)
      (n / exponentBit % 2048 * exponentBit + n % exponentBit) := by
  split
  · simp only [signed, exponentBit, signBit] at *
    omega
  · simp only [signed, exponentBit, signBit] at *
    omega

theorem stands_unpack (b : BitVec Format.binary64.numBits) :
    Stands b.toNat (UnpackedFloat.unpack Format.binary64 b) := by
  have hbias : ((Format.binary64.exponentBias : Nat) : Int) = 1023 := rfl
  have hparts : b.toNat = signed (Sign.ofBitVec (UnpackedFloat.unpackSign b))
      ((UnpackedFloat.unpackExponent b).toNat * exponentBit
        + (UnpackedFloat.unpackMantissa b).toNat) := by
    rw [ofBitVec_unpackSign, toNat_unpackExponent, toNat_unpackMantissa]
    exact eq_signed b.isLt
  have hmantissa : (UnpackedFloat.unpackMantissa b).toNat < exponentBit :=
    (UnpackedFloat.unpackMantissa b).isLt
  have hexponent : (UnpackedFloat.unpackExponent b).toNat < 2048 :=
    (UnpackedFloat.unpackExponent b).isLt
  unfold UnpackedFloat.unpack
  dsimp only
  by_cases htop : UnpackedFloat.unpackExponent b = -1#11
  · rw [if_pos htop]
    by_cases hnone : UnpackedFloat.unpackMantissa b = 0#52
    · rw [if_pos hnone]
      rw [htop, hnone] at hparts
      exact .infinity _ hparts
    · rw [if_neg hnone]
      exact .notANumber
  · have hbelow : (UnpackedFloat.unpackExponent b).toNat ≠ 2047 :=
      fun h => htop (BitVec.toNat_inj.mp h)
    rw [if_neg htop]
    by_cases hleast : UnpackedFloat.unpackExponent b = 0#11
    · have hzero : (UnpackedFloat.unpackExponent b).toNat = 0 := congrArg BitVec.toNat hleast
      rw [hzero, Nat.zero_mul, Nat.zero_add] at hparts
      rw [if_pos hleast]
      by_cases hnone : UnpackedFloat.unpackMantissa b = 0#52
      · rw [dif_pos hnone]
        rw [hnone] at hparts
        exact .zero _ hparts
      · have hcode : code (UnpackedFloat.unpackMantissa b).toNat
            ((UnpackedFloat.unpackExponent b).toNat - (Format.binary64.exponentBias + 52) + 1)
              = (UnpackedFloat.unpackMantissa b).toNat := by
          have hnothing : (((0 : Nat) : Int) - (1023 + 52) + 1 + 1074).toNat = 0 := rfl
          rw [code, hzero, hbias, hnothing, Nat.zero_mul, Nat.zero_add]
        rw [dif_neg hnone]
        refine .finite _ _ _ _ ⟨by omega, by omega, by omega, .inl (by omega)⟩ ?_
        exact hparts.trans (congrArg _ hcode.symm)
    · have hpos : (UnpackedFloat.unpackExponent b).toNat ≠ 0 :=
        fun h => hleast (BitVec.toNat_inj.mp h)
      have hwhole : (1#1 ++ UnpackedFloat.unpackMantissa b).toNat
          = exponentBit + (UnpackedFloat.unpackMantissa b).toNat := by
        rw [toNat_one_append, toNat_unpackMantissa]
      rw [if_neg hleast]
      refine .finite _ _ _ _ ⟨by omega, by omega, by omega, .inr (by omega)⟩ ?_
      refine hparts.trans (congrArg _ ?_)
      simp only [code, exponentBit] at *
      omega

/-- A float is what its bits stand for. -/
theorem stands_toModel (x : Float) : Stands x.toBits.toNat x.toModel.unpack :=
  stands_unpack x.toModel.toBits.toBitVec

-- =============================================================== weights

/-- The bits below the sign as an integer of that sign; both zeros weigh
nothing. -/
def weight : UnpackedFloat → Int
  | .notANumber => 0
  | .infinity s => s.apply infinityCode
  | .zero _ => 0
  | .finite s m e _ => s.apply (code m e)

theorem code_pos {m : Nat} (e : Int) (hm : 0 < m) : 0 < code m e := Nat.add_pos_right _ hm

theorem Fits.code_lt {m : Nat} {e : Int} (h : Fits m e) : code m e < infinityCode := by
  obtain ⟨hlow, hhigh, hwidth, -⟩ := h
  simp only [code, infinityCode, exponentBit] at *
  omega

/-- A greater exponent outweighs any mantissa. -/
theorem Fits.code_lt_code {m m' : Nat} {e e' : Int} (h : Fits m e) (h' : Fits m' e')
    (he : e < e') : code m e < code m' e' := by
  obtain ⟨hlow, -, hwidth, -⟩ := h
  obtain ⟨-, -, -, hfull⟩ := h'
  simp only [code, exponentBit] at *
  omega

/-- The bits are in the order of exponents and then of mantissas. -/
theorem Fits.compare_code {m m' : Nat} {e e' : Int} (h : Fits m e) (h' : Fits m' e') :
    (compare e e').then (compare m m') = compare (code m e : Int) (code m' e') := by
  rcases Int.lt_trichotomy e e' with he | rfl | he
  · have hlt := h.code_lt_code h' he
    rw [Int.compare_eq_lt.mpr he, Int.compare_eq_lt.mpr (Int.ofNat_lt.mpr hlt), Ordering.lt_then]
  · rw [Int.compare_eq_eq.mpr rfl, Ordering.eq_then]
    rcases Nat.lt_trichotomy m m' with hm | rfl | hm
    · have hlt : code m e < code m' e := Nat.add_lt_add_left hm _
      rw [Nat.compare_eq_lt.mpr hm, Int.compare_eq_lt.mpr (Int.ofNat_lt.mpr hlt)]
    · rw [Nat.compare_eq_eq.mpr rfl, Int.compare_eq_eq.mpr rfl]
    · have hlt : code m' e < code m e := Nat.add_lt_add_left hm _
      rw [Nat.compare_eq_gt.mpr hm, Int.compare_eq_gt.mpr (Int.ofNat_lt.mpr hlt)]
  · have hlt := h'.code_lt_code h he
    rw [Int.compare_eq_gt.mpr he, Int.compare_eq_gt.mpr (Int.ofNat_lt.mpr hlt), Ordering.gt_then]

theorem compare_neg_neg (a b : Int) : compare (-a) (-b) = (compare a b).swap := by
  rcases Int.lt_trichotomy a b with h | rfl | h
  · rw [Int.compare_eq_lt.mpr h, Int.compare_eq_gt.mpr (Int.neg_lt_neg h), Ordering.swap_lt]
  · rw [Int.compare_eq_eq.mpr rfl, Int.compare_eq_eq.mpr rfl, Ordering.swap_eq]
  · rw [Int.compare_eq_gt.mpr h, Int.compare_eq_lt.mpr (Int.neg_lt_neg h), Ordering.swap_gt]

theorem Fits.weight_bounds {m : Nat} {e : Int} (h : Fits m e) (s : Sign) (hm : 0 < m) :
    -(infinityCode : Int) < weight (.finite s m e hm) ∧
      weight (.finite s m e hm) < infinityCode := by
  have hlt := h.code_lt
  cases s with
  | positive =>
    show -(infinityCode : Int) < code m e ∧ (code m e : Int) < infinityCode
    omega
  | negative =>
    show -(infinityCode : Int) < -(code m e : Int) ∧ -(code m e : Int) < infinityCode
    omega

/-- Floats are compared as their weights are. -/
theorem compare_eq_weight {n k : Nat} {u v : UnpackedFloat} (hu : Stands n u) (hv : Stands k v)
    (hnu : u ≠ .notANumber) (hnv : v ≠ .notANumber) :
    u.compare v = some (compare (weight u) (weight v)) := by
  cases hu with
  | notANumber => exact absurd rfl hnu
  | infinity s _ =>
    cases hv with
    | notANumber => exact absurd rfl hnv
    | infinity t _ => cases s <;> cases t <;> rfl
    | zero t _ => cases s <;> rfl
    | finite t m e hm hfits _ =>
      obtain ⟨hlow, hhigh⟩ := hfits.weight_bounds t hm
      cases s with
      | positive => exact congrArg some (Int.compare_eq_gt.mpr hhigh).symm
      | negative => exact congrArg some (Int.compare_eq_lt.mpr hlow).symm
  | zero s _ =>
    cases hv with
    | notANumber => exact absurd rfl hnv
    | infinity t _ => cases t <;> rfl
    | zero t _ => rfl
    | finite t m e hm hfits _ =>
      have hpos : (0 : Int) < code m e := Int.ofNat_lt.mpr (code_pos e hm)
      cases t with
      | positive => exact congrArg some (Int.compare_eq_lt.mpr hpos).symm
      | negative => exact congrArg some (Int.compare_eq_gt.mpr (Int.neg_neg_of_pos hpos)).symm
  | finite s m e hm hfits _ =>
    have hpos : (0 : Int) < code m e := Int.ofNat_lt.mpr (code_pos e hm)
    cases hv with
    | notANumber => exact absurd rfl hnv
    | infinity t _ =>
      obtain ⟨hlow, hhigh⟩ := hfits.weight_bounds s hm
      cases t with
      | positive => cases s <;> exact congrArg some (Int.compare_eq_lt.mpr hhigh).symm
      | negative => cases s <;> exact congrArg some (Int.compare_eq_gt.mpr hlow).symm
    | zero t _ =>
      cases s with
      | positive => exact congrArg some (Int.compare_eq_gt.mpr hpos).symm
      | negative => exact congrArg some (Int.compare_eq_lt.mpr (Int.neg_neg_of_pos hpos)).symm
    | finite t m' e' hm' hfits' _ =>
      have hpos' : (0 : Int) < code m' e' := Int.ofNat_lt.mpr (code_pos e' hm')
      have hcode := hfits.compare_code hfits'
      cases s with
      | positive =>
        cases t with
        | positive => exact congrArg some hcode
        | negative =>
          have hlt := Int.lt_trans (Int.neg_neg_of_pos hpos') hpos
          exact congrArg some (Int.compare_eq_gt.mpr hlt).symm
      | negative =>
        cases t with
        | positive =>
          have hlt := Int.lt_trans (Int.neg_neg_of_pos hpos) hpos'
          exact congrArg some (Int.compare_eq_lt.mpr hlt).symm
        | negative =>
          exact congrArg some ((congrArg Ordering.swap hcode).trans (compare_neg_neg _ _).symm)

-- ================================================== the order of patterns

/-- A number stands at its weight, or with a minus one place before it. -/
theorem orderKey_cases {x : Float} (hx : x.toModel.unpack ≠ .notANumber) :
    (orderKey x = weight x.toModel.unpack ∧ 0 ≤ orderKey x) ∨
      (orderKey x = weight x.toModel.unpack - 1 ∧ orderKey x < 0) := by
  have hsigned : ∀ {s : Sign} {n : Nat}, x.toBits.toNat = signed s n → n < signBit →
      (orderKey x = s.apply n ∧ 0 ≤ orderKey x) ∨
        (orderKey x = s.apply n - 1 ∧ orderKey x < 0) := by
    intro s n hbits hn
    unfold orderKey
    rw [hbits]
    cases s with
    | positive =>
      have hkey : signed .positive n = n := rfl
      rw [hkey, if_pos hn]
      exact .inl ⟨rfl, Int.natCast_nonneg n⟩
    | negative =>
      have hkey : signed .negative n = signBit + n := rfl
      rw [hkey, if_neg (by omega), Sign.apply]
      omega
  have htop : infinityCode < signBit := by decide
  have hstands := stands_toModel x
  generalize x.toModel.unpack = u at hx hstands ⊢
  cases hstands with
  | notANumber => exact absurd rfl hx
  | infinity s hn => exact hsigned hn htop
  | zero s hn =>
    have hzero := hsigned hn (by decide)
    cases s <;> exact hzero
  | finite s m e hm hfits hn => exact hsigned hn (Nat.lt_trans hfits.code_lt htop)

theorem compare_of_lt {x y : Float} (h : x < y) :
    x.toModel.unpack.compare y.toModel.unpack = some .lt := by
  have hlt : x.toModel.unpack.lt y.toModel.unpack = true :=
    of_decide_eq_true (p := x.toModel < y.toModel) h
  exact eq_of_beq hlt

theorem lt_of_compare {x y : Float} (h : x.toModel.unpack.compare y.toModel.unpack = some .lt) :
    x < y := by
  have hlt : x.toModel.unpack.lt y.toModel.unpack = true := beq_iff_eq.mpr h
  exact decide_eq_true (p := x.toModel < y.toModel) hlt

theorem compare_notANumber (u : UnpackedFloat) : u.compare .notANumber = none := by
  cases u <;> rfl

theorem ne_notANumber_of_lt {x y : Float} (h : x < y) :
    x.toModel.unpack ≠ .notANumber ∧ y.toModel.unpack ≠ .notANumber := by
  have hcompare := compare_of_lt h
  refine ⟨fun hx => ?_, fun hy => ?_⟩
  · rw [hx] at hcompare
    cases hcompare
  · rw [hy, compare_notANumber] at hcompare
    cases hcompare

/-- A number stands before a greater one. -/
theorem orderKey_lt {x y : Float} (h : x < y) : orderKey x < orderKey y := by
  obtain ⟨hx, hy⟩ := ne_notANumber_of_lt h
  have hcompare := compare_of_lt h
  rw [compare_eq_weight (stands_toModel x) (stands_toModel y) hx hy, Option.some.injEq,
    Int.compare_eq_lt] at hcompare
  have hkx := orderKey_cases hx
  have hky := orderKey_cases hy
  omega

-- ============================================================= distances

/-- The same bits are of the same parts. -/
theorem Fits.code_inj {m m' : Nat} {e e' : Int} (h : Fits m e) (h' : Fits m' e')
    (heq : code m e = code m' e') : e = e' ∧ m = m' := by
  have hcompare := h.compare_code h'
  rw [heq, Int.compare_eq_eq.mpr rfl, Ordering.then_eq_eq, Int.compare_eq_eq,
    Nat.compare_eq_eq] at hcompare
  exact hcompare

theorem weight_ne_zero {m : Nat} (e : Int) (s : Sign) (hm : 0 < m) :
    weight (.finite s m e hm) ≠ 0 := by
  have hpos : (0 : Int) < code m e := Int.ofNat_lt.mpr (code_pos e hm)
  cases s with
  | positive => exact Int.ne_of_gt hpos
  | negative => exact Int.ne_of_lt (Int.neg_neg_of_pos hpos)

theorem sub_self_finite (s : Sign) (m : Nat) (e : Int) (hm : 0 < m) :
    UnpackedFloat.sub .binary64 (.finite s m e hm) (.finite s m e hm) = .zero .positive := by
  unfold UnpackedFloat.sub
  dsimp only
  rw [Int.sub_self]
  rfl

/-- Nothing is left of a finite number taken from one of the same weight. -/
theorem sub_of_weight_eq {n k : Nat} {u v : UnpackedFloat} (hu : Stands n u) (hv : Stands k v)
    (hfu : u.isFinite = true) (hfv : v.isFinite = true) (h : weight u = weight v) :
    ∃ s, UnpackedFloat.sub .binary64 u v = .zero s := by
  cases hu with
  | notANumber => cases hfu
  | infinity s _ => cases hfu
  | zero s _ =>
    cases hv with
    | notANumber => cases hfv
    | infinity t _ => cases hfv
    | zero t _ => cases s <;> cases t <;> exact ⟨_, rfl⟩
    | finite t m e hm hfits _ => exact absurd h.symm (weight_ne_zero e t hm)
  | finite s m e hm hfits _ =>
    cases hv with
    | notANumber => cases hfv
    | infinity t _ => cases hfv
    | zero t _ => exact absurd h (weight_ne_zero e s hm)
    | finite t m' e' hm' hfits' _ =>
      have hpos : (0 : Int) < code m e := Int.ofNat_lt.mpr (code_pos e hm)
      have hpos' : (0 : Int) < code m' e' := Int.ofNat_lt.mpr (code_pos e' hm')
      have hsame : s = t ∧ code m e = code m' e' := by
        cases s <;> cases t
        · exact ⟨rfl, Int.ofNat_inj.mp (Int.neg_inj.mp h)⟩
        · have hne : -(code m e : Int) = code m' e' := h
          omega
        · have hne : (code m e : Int) = -(code m' e' : Int) := h
          omega
        · exact ⟨rfl, Int.ofNat_inj.mp h⟩
      obtain ⟨rfl, hcode⟩ := hsame
      obtain ⟨rfl, rfl⟩ := hfits.code_inj hfits' hcode
      exact ⟨_, sub_self_finite s m e hm⟩

theorem ne_notANumber_of_isFinite {x : Float} (h : x.isFinite = true) :
    x.toModel.unpack ≠ .notANumber := by
  intro hnan
  have hfinite : x.toModel.unpack.isFinite = true := h
  rw [hnan] at hfinite
  cases hfinite

/-- Of two finite floats one is below the other, or they have no distance. -/
theorem lt_or_lt_or_abs_sub {x y : Float} (hx : x.isFinite = true) (hy : y.isFinite = true) :
    x < y ∨ y < x ∨ (x - y).abs = 0 := by
  have hnx := ne_notANumber_of_isFinite hx
  have hny := ne_notANumber_of_isFinite hy
  have hsx := stands_toModel x
  have hsy := stands_toModel y
  rcases Int.lt_trichotomy (weight x.toModel.unpack) (weight y.toModel.unpack) with h | h | h
  · refine .inl (lt_of_compare ?_)
    rw [compare_eq_weight hsx hsy hnx hny, Int.compare_eq_lt.mpr h]
  · obtain ⟨s, hs⟩ := sub_of_weight_eq hsx hsy hx hy h
    have habs : (x - y).abs = .ofModel (Float.Model.abs
        (pack (UnpackedFloat.sub .binary64 x.toModel.unpack y.toModel.unpack))) := rfl
    refine .inr (.inr ?_)
    rw [habs, hs]
    cases s <;> rfl
  · refine .inr (.inl (lt_of_compare ?_))
    rw [compare_eq_weight hsy hsx hny hnx, Int.compare_eq_lt.mpr h]

-- ====================================================== signs do not count

theorem abs_zero_or_finite (s t : Sign) {m : Nat} (e : Int) (hpos : ¬ m = 0 → 0 < m) :
    (if h : m = 0 then UnpackedFloat.zero s else .finite s m e (hpos h)).abs
      = (if h : m = 0 then UnpackedFloat.zero t else .finite t m e (hpos h)).abs := by
  by_cases h : m = 0
  · rw [dif_pos h, dif_pos h]
    rfl
  · rw [dif_neg h, dif_neg h]
    rfl

/-- Rounding does not look at the sign. -/
theorem abs_round (s t : Sign) (m : Nat) (e : Int) :
    (UnpackedFloat.round .binary64 s m e).abs = (UnpackedFloat.round .binary64 t m e).abs := by
  unfold UnpackedFloat.round UnpackedFloat.roundWithAccuracy
  exact abs_zero_or_finite s t _ Nat.pos_of_ne_zero

theorem abs_normalize_neg (m e : Int) :
    (UnpackedFloat.normalize .binary64 (-m) e .positive).abs
      = (UnpackedFloat.normalize .binary64 m e .positive).abs := by
  unfold UnpackedFloat.normalize
  rcases Int.lt_trichotomy m 0 with h | rfl | h
  · rw [Int.compare_eq_lt.mpr h, Int.compare_eq_gt.mpr (Int.neg_pos_of_neg h)]
    exact abs_round ..
  · rfl
  · rw [Int.compare_eq_gt.mpr h, Int.compare_eq_lt.mpr (Int.neg_neg_of_pos h), Int.neg_neg]
    exact abs_round ..

theorem finite_congr {s : Sign} {m m' : Nat} {e e' : Int} {hm : 0 < m} {hm' : 0 < m'}
    (h : m = m') (he : e = e') : UnpackedFloat.finite s m e hm = .finite s m' e' hm' := by
  subst h he
  rfl

theorem abs_unpack_of_parts {b b' : BitVec Format.binary64.numBits}
    (hm : UnpackedFloat.unpackMantissa b = UnpackedFloat.unpackMantissa b')
    (he : UnpackedFloat.unpackExponent b = UnpackedFloat.unpackExponent b') :
    (UnpackedFloat.unpack .binary64 b).abs = (UnpackedFloat.unpack .binary64 b').abs := by
  unfold UnpackedFloat.unpack
  dsimp only
  by_cases htop : UnpackedFloat.unpackExponent b' = -1#11
  · rw [if_pos (he.trans htop), if_pos htop]
    by_cases hnone : UnpackedFloat.unpackMantissa b' = 0#52
    · rw [if_pos (hm.trans hnone), if_pos hnone]
      rfl
    · rw [if_neg (fun h => hnone (hm.symm.trans h)), if_neg hnone]
  · rw [if_neg (fun h => htop (he.symm.trans h)), if_neg htop]
    by_cases hleast : UnpackedFloat.unpackExponent b' = 0#11
    · rw [if_pos (he.trans hleast), if_pos hleast]
      by_cases hnone : UnpackedFloat.unpackMantissa b' = 0#52
      · rw [dif_pos (hm.trans hnone), dif_pos hnone]
        rfl
      · rw [dif_neg (fun h => hnone (hm.symm.trans h)), dif_neg hnone]
        exact finite_congr (by rw [hm]) (by rw [he])
    · rw [if_neg (fun h => hleast (he.symm.trans h)), if_neg hleast]
      exact finite_congr (by rw [hm]) (by rw [he])

theorem abs_unpack_packComponents (s t : Sign) (e : BitVec 11) (m : BitVec 52) :
    (UnpackedFloat.unpack .binary64 (UnpackedFloat.packComponents .binary64 s e m)).abs
      = (UnpackedFloat.unpack .binary64 (UnpackedFloat.packComponents .binary64 t e m)).abs := by
  have hm : ∀ s, UnpackedFloat.unpackMantissa (UnpackedFloat.packComponents .binary64 s e m) = m :=
    fun _ => UnpackedFloat.unpackMantissa_packComponents
  have he : ∀ s, UnpackedFloat.unpackExponent (UnpackedFloat.packComponents .binary64 s e m) = e :=
    fun _ => UnpackedFloat.unpackExponent_packComponents
  exact abs_unpack_of_parts ((hm s).trans (hm t).symm) ((he s).trans (he t).symm)

/-- Packing does not look at the sign either. -/
theorem abs_pack {u v : UnpackedFloat} (h : u.abs = v.abs) :
    Float.Model.abs (pack u) = Float.Model.abs (pack v) := by
  refine congrArg pack ?_
  show (UnpackedFloat.unpack .binary64 (UnpackedFloat.pack .binary64 u)).abs
    = (UnpackedFloat.unpack .binary64 (UnpackedFloat.pack .binary64 v)).abs
  cases u with
  | notANumber => cases v <;> cases h; rfl
  | infinity s => cases v <;> cases h; exact abs_unpack_packComponents ..
  | zero s => cases v <;> cases h; exact abs_unpack_packComponents ..
  | finite s m e hm =>
    cases v <;> cases h
    unfold UnpackedFloat.pack
    dsimp only
    split
    · exact abs_unpack_packComponents ..
    · split <;> exact abs_unpack_packComponents ..

/-- Which of two floats is taken from the other does not matter to their
distance. -/
theorem abs_sub_comm (x y : Float) : (x - y).abs = (y - x).abs := by
  refine congrArg Float.ofModel (abs_pack ?_)
  generalize x.toModel.unpack = u
  generalize y.toModel.unpack = v
  cases u with
  | notANumber => cases v <;> rfl
  | infinity s => cases s <;> rcases v with (_ | _) | _ | _ | _ <;> rfl
  | zero s => cases s <;> rcases v with _ | _ | (_ | _) | _ <;> rfl
  | finite s m e hm =>
    cases v with
    | notANumber => rfl
    | infinity t => rfl
    | zero t => rfl
    | finite t m' e' hm' =>
      unfold UnpackedFloat.sub
      dsimp only
      rw [Int.min_comm e e', ← Int.neg_sub]
      exact abs_normalize_neg ..

end HostTelemetry.Number
