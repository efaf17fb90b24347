/-
Products, quotients and conversions of floats, in exact numbers.

# Two accounts of a float

A float is an unpacked number to its operations, and a sign with a natural
and an exponent to the functions that print and cut it. Both are read off the
same bits (`ofFloat?_cases`, `parts_of_ofFloat?`), and a result is packed into
the bits that stand for it (`shows_pack`).

# What an operation shows

The size of a product, of a quotient or of a natural number is its rounded
exact size (`shows_mul`, `shows_div`, `ofFloat?_ofNat`), and the sign is that of
the exact number, also where nothing is left of its size. Beyond the range there
is no exact number to speak of, and a quotient gives none back
(`ofFloat?_div_eq_none`). A float is known by its sign and its size
(`eq_of_size_eq`).
-/
import HostTelemetry.Proofs.Number.Order
import HostTelemetry.Proofs.Number.Rounding

namespace HostTelemetry.Number

open Float.Model (UnpackedFloat Format pack totalExponent)
open Float.Model.UnpackedFloat (Sign roundWithAccuracy)

-- ===================================================== unpacked operations

section Unpacked

variable {s t : Sign} {u w : UnpackedFloat} {a b : Rat}

theorem sized_zero (s : Sign) : Sized s (.zero s) (((0 : Nat) : Rat) * 2 ^ (-1074 : Int)) := by
  rw [Nat.cast_zero, zero_mul]
  exact .zero

/-- A product has the rounded product of the sizes. -/
theorem sized_mul (hu : Sized s u a) (hw : Sized t w b) :
    ∃ n k, Rounding (a * b) n k ∧ Sized (s * t) (UnpackedFloat.mul .binary64 u w) (n * 2 ^ k) := by
  cases hu with
  | zero =>
    rw [zero_mul]
    cases hw <;> exact ⟨0, -1074, rounding_zero, sized_zero _⟩
  | finite m e hm hleast hwidth hfull =>
    cases hw with
    | zero =>
      rw [mul_zero]
      exact ⟨0, -1074, rounding_zero, sized_zero _⟩
    | finite m' e' hm' hleast' hwidth' hfull' =>
      refine sized_roundWithAccuracy (s * t) ?_ ?_
      · have hexact : (m : Rat) * 2 ^ e * (m' * 2 ^ e') / 2 ^ (e + e') = (m * m' : Nat) := by
          rw [div_eq_iff (zpow_pos_two _).ne', two_zpow_add]
          push_cast
          ring
        rw [hexact]
        exact placesWith_exact _
      · rcases hfull with hfull | hfull
        · rcases hfull' with hfull' | hfull'
          · left
            omega
          · exact .inr (hfull'.trans (Nat.le_mul_of_pos_left m' hm))
        · exact .inr (hfull.trans (Nat.le_mul_of_pos_right m hm'))

/-- A quotient has the rounded quotient of the sizes. -/
theorem sized_div (hu : Sized s u a) (hw : Sized t w b) (hb : b ≠ 0) :
    ∃ n k, Rounding (a / b) n k ∧ Sized (s / t) (UnpackedFloat.div .binary64 u w) (n * 2 ^ k) := by
  cases hw with
  | zero => exact absurd rfl hb
  | finite m' e' hm' hleast' hwidth' hfull' =>
    cases hu with
    | zero =>
      rw [zero_div]
      exact ⟨0, -1074, rounding_zero, sized_zero _⟩
    | finite m e hm hleast hwidth hfull =>
      have htarget : Format.binary64.targetExponent (totalExponent m e - totalExponent m' e')
          = max ((m.log2 : Int) + e - m'.log2 - e' - 53) (-1074) := by
        show max ((m.log2 : Int) + 1 + e - (m'.log2 + 1 + e') - 53) (-1074) = _
        omega
      unfold UnpackedFloat.div
      dsimp only [UnpackedFloat.divCore]
      rw [htarget]
      -- The dividend is shifted so far that the quotient has 53 bits at least.
      obtain ⟨k, i, hi, hk, hbits⟩ : ∃ (k : Nat) (i : Int),
          min (e - e') (max ((m.log2 : Int) + e - m'.log2 - e' - 53) (-1074)) = i ∧
            e - e' = i + k ∧ (i ≤ -1074 ∨ 53 + m'.log2 ≤ m.log2 + k) := by
        refine ⟨(e - e' - min (e - e') (max ((m.log2 : Int) + e - m'.log2 - e' - 53) (-1074))).toNat,
          _, rfl, ?_, ?_⟩
        · omega
        · omega
      have hshift : (e - e' - i).toNat = k := by omega
      rw [hi, hshift, Nat.shiftLeft_eq]
      refine sized_roundWithAccuracy (s / t) ?_ ?_
      · have hexact : (m : Rat) * 2 ^ e / (m' * 2 ^ e') / 2 ^ i = (m * 2 ^ k : Nat) / (m' : Nat) := by
          have hsplit : (2 : Rat) ^ e = 2 ^ i * 2 ^ k * 2 ^ e' := by
            rw [← zpow_natCast, ← two_zpow_add, ← two_zpow_add]
            congr 1
            omega
          have hi0 := (zpow_pos_two i).ne'
          have he0 := (zpow_pos_two e').ne'
          rw [hsplit]
          push_cast
          field_simp
        rw [hexact]
        exact placesWith_div _ hm'
      · rcases hbits with hleast | hbits
        · exact .inl hleast
        · right
          rw [Nat.le_div_iff_mul_le hm']
          calc exponentBit * m' ≤ 2 ^ 52 * 2 ^ (m'.log2 + 1) :=
                Nat.mul_le_mul_left _ (Nat.le_of_lt Nat.lt_log2_self)
            _ = 2 ^ (53 + m'.log2) := by
              rw [← Nat.pow_add]
              congr 1
              omega
            _ ≤ 2 ^ (m.log2 + k) := Nat.pow_le_pow_right (by decide) hbits
            _ = 2 ^ m.log2 * 2 ^ k := Nat.pow_add ..
            _ ≤ m * 2 ^ k := Nat.mul_le_mul_right _ (Nat.log2_self_le hm.ne')

theorem log2_shiftLeft {m : Nat} (hm : m ≠ 0) (k : Nat) : (m <<< k).log2 = m.log2 + k := by
  induction k with
  | zero => rfl
  | succ k ih =>
    have hne : m <<< k ≠ 0 := mt Nat.shiftLeft_eq_zero_iff.mp hm
    rw [Nat.shiftLeft_succ, Nat.log2_two_mul hne, ih]
    rfl

/-- A natural number becomes the rounded number. -/
theorem sized_ofNat (n : Nat) :
    ∃ m k, Rounding n m k ∧ Sized .positive (UnpackedFloat.ofNat .binary64 n) (m * 2 ^ k) := by
  rcases Nat.eq_zero_or_pos n with rfl | hn
  · exact ⟨0, -1074, rounding_zero, sized_zero _⟩
  · have hround : UnpackedFloat.ofNat .binary64 n = UnpackedFloat.round .binary64 .positive n 0 := by
      unfold UnpackedFloat.ofNat UnpackedFloat.ofInt UnpackedFloat.normalize
      rw [Int.compare_eq_gt.mpr (Int.natCast_pos.mpr hn)]
      rfl
    obtain ⟨k, hk⟩ : ∃ k : Nat, (0 - max ((n.log2 : Int) + 0 - 52) (-1074)).toNat = k := ⟨_, rfl⟩
    have hshift : UnpackedFloat.round .binary64 .positive n 0
        = roundWithAccuracy .binary64 .positive (n <<< k) (0 - k) .exact := by
      rw [← targetExponent_eq] at hk
      rw [← hk]
      rfl
    rw [hround, hshift]
    refine sized_roundWithAccuracy .positive ?_ ?_
    · have hexact : (n : Rat) / 2 ^ (0 - (k : Int)) = (n <<< k : Nat) := by
        rw [zero_sub, zpow_neg, div_inv_eq_mul, zpow_natCast, Nat.shiftLeft_eq]
        push_cast
        rfl
      rw [hexact]
      exact placesWith_exact _
    · have hlog := log2_shiftLeft hn.ne' k
      refine .inr (le_trans ?_ (Nat.log2_self_le (Nat.shiftLeft_pos_iff.mpr hn).ne'))
      rw [hlog]
      exact Nat.pow_le_pow_right (by decide : 0 < 2) (by omega : 52 ≤ _)

theorem Sized.neg (h : Sized s u a) : Sized (-s) u.neg a := by
  cases h with
  | zero => exact .zero
  | finite m e hm hleast hwidth hfull => exact .finite m e hm hleast hwidth hfull

end Unpacked

-- ============================================================== into bits

section Packing

variable {m : Nat} {e : Int}

theorem toNat_packComponents (s : Sign) (e : BitVec 11) (m : BitVec 52) :
    (UnpackedFloat.packComponents .binary64 s e m).toNat
      = signed s (e.toNat * exponentBit + m.toNat) := by
  show (s.toBitVec ++ e ++ m).toNat = _
  have hm : m.toNat < 2 ^ 52 := m.isLt
  have he : e.toNat < 2 ^ 11 := e.isLt
  rw [BitVec.toNat_append, ← Nat.shiftLeft_add_eq_or_of_lt hm, BitVec.toNat_append,
    ← Nat.shiftLeft_add_eq_or_of_lt he, Nat.shiftLeft_eq, Nat.shiftLeft_eq]
  cases s with
  | positive =>
    show (0 * 2 ^ 11 + e.toNat) * 2 ^ 52 + m.toNat = e.toNat * exponentBit + m.toNat
    simp only [exponentBit]
    omega
  | negative =>
    show (1 * 2 ^ 11 + e.toNat) * 2 ^ 52 + m.toNat
      = signBit + (e.toNat * exponentBit + m.toNat)
    simp only [exponentBit, signBit]
    omega

theorem pack_finite (s : Sign) (e : Int) (hm : 0 < m) :
    UnpackedFloat.pack .binary64 (.finite s m e hm)
      = if 2048 ≤ (e + 1023 + 52).toNat + 1 then UnpackedFloat.packedInfinity .binary64 s
        else if m.log2 + 1 = 53 then
          UnpackedFloat.packComponents .binary64 s (BitVec.ofNat 11 (e + 1023 + 52).toNat)
            (BitVec.ofNat 52 m)
        else UnpackedFloat.packComponents .binary64 s 0#11 (BitVec.ofNat 52 m) := rfl

/-- Parts that fit are put into the bits that stand for them. -/
theorem toNat_pack_of_fits (s : Sign) (hm : 0 < m) (h : Fits m e) :
    (UnpackedFloat.pack .binary64 (.finite s m e hm)).toNat = signed s (code m e) := by
  obtain ⟨hlow, hhigh, hwidth, hfull⟩ := h
  have hmod : (BitVec.ofNat 52 m).toNat = m % exponentBit := BitVec.toNat_ofNat ..
  rw [pack_finite, if_neg (by omega)]
  by_cases hnormal : exponentBit ≤ m
  · have hlog : m.log2 = 52 := (Nat.log2_eq_iff hm.ne').mpr ⟨hnormal, hwidth⟩
    rw [hlog, if_pos rfl, toNat_packComponents, hmod, BitVec.toNat_ofNat]
    refine congrArg (signed s) ?_
    simp only [code, exponentBit] at *
    omega
  · have hlog : m.log2 < 52 := (Nat.log2_lt hm.ne').mpr (Nat.lt_of_not_le hnormal)
    rw [if_neg (by omega), toNat_packComponents, hmod]
    refine congrArg (signed s) ?_
    show 0 * exponentBit + m % exponentBit = _
    simp only [code, exponentBit] at *
    omega

theorem toNat_pack_infinity (s : Sign) :
    (UnpackedFloat.pack .binary64 (.infinity s)).toNat = signed s infinityCode :=
  toNat_packComponents ..

theorem toNat_pack_overflow (s : Sign) (hm : 0 < m) (he : 971 < e) :
    (UnpackedFloat.pack .binary64 (.finite s m e hm)).toNat = signed s infinityCode := by
  rw [pack_finite, if_pos (by omega)]
  exact toNat_pack_infinity s

/-- What fits is below the range of floats. -/
theorem Fits.size_lt (h : Fits m e) : (m : Rat) * 2 ^ e < 2 ^ 1024 := by
  have hhigh := h.high
  calc (m : Rat) * 2 ^ e < (2 * exponentBit : Nat) * 2 ^ e :=
        mul_lt_mul_of_pos_right (Nat.cast_lt.mpr h.width) (zpow_pos_two e)
    _ = 2 ^ (1 + (e + 52)) := by
      rw [two_zpow_add 1, ← exponentBit_mul_zpow, zpow_one]
      push_cast
      ring
    _ ≤ 2 ^ (1024 : Int) := zpow_le_zpow_right₀ one_le_two (by omega)
    _ = 2 ^ 1024 := rfl

/-- A greater exponent gives a greater size. -/
theorem Fits.size_lt_size {m' : Nat} {e' : Int} (h : Fits m e) (h' : Fits m' e') (he : e < e') :
    (m : Rat) * 2 ^ e < m' * 2 ^ e' := by
  have hlow := h.low
  have hm' : exponentBit ≤ m' := h'.full.resolve_left (by omega)
  calc (m : Rat) * 2 ^ e < (2 * exponentBit : Nat) * 2 ^ e :=
        mul_lt_mul_of_pos_right (Nat.cast_lt.mpr h.width) (zpow_pos_two e)
    _ = exponentBit * 2 ^ (e + 1) := by
      rw [two_zpow_add, zpow_one]
      push_cast
      ring
    _ ≤ m' * 2 ^ e' := by
      refine mul_le_mul (Nat.cast_le.mpr hm') ?_ (zpow_pos_two _).le (Nat.cast_nonneg _)
      exact zpow_le_zpow_right₀ one_le_two he

theorem fits_zero : Fits 0 (-1074) := ⟨le_rfl, by omega, by decide, .inl rfl⟩

end Packing

-- =================================================== floats and their sizes

/-- The size of the number. -/
def Dyadic.size (d : Dyadic) : Rat := d.m * 2 ^ d.q

/-- Whether the sign is minus. -/
def minus : Sign → Bool
  | .positive => false
  | .negative => true

theorem minus_mul (s t : Sign) : minus (s * t) = (minus s ^^ minus t) := by
  cases s <;> cases t <;> rfl

theorem minus_div (s t : Sign) : minus (s / t) = (minus s ^^ minus t) := by
  cases s <;> cases t <;> rfl

theorem minus_neg (s : Sign) : minus (-s) = !minus s := by
  cases s <;> rfl

theorem minus_inj {s t : Sign} (h : minus s = minus t) : s = t := by
  cases s <;> cases t <;> first | rfl | cases h

variable {x y : Float} {d c : Dyadic}

theorem ofFloat?_of_fits {s : Sign} {m : Nat} {e : Int} (h : Fits m e)
    (hx : x.toBits.toNat = signed s (code m e)) :
    Dyadic.ofFloat? x = some ⟨minus s, m, e⟩ := by
  obtain ⟨hlow, hhigh, hwidth, hfull⟩ := h
  obtain ⟨hdiv, hmod, hlt⟩ : code m e / exponentBit = (e + 1074).toNat + m / exponentBit ∧
      code m e % exponentBit = m % exponentBit ∧ code m e < signBit := by
    simp only [code, exponentBit, signBit] at *
    omega
  obtain ⟨hsign, hrest, hfrac⟩ : decide (signBit ≤ x.toBits.toNat) = minus s ∧
      x.toBits.toNat % signBit = code m e ∧
      x.toBits.toNat % exponentBit = m % exponentBit := by
    rw [hx]
    cases s with
    | positive =>
      exact ⟨decide_eq_false (not_le.mpr hlt), Nat.mod_eq_of_lt hlt, hmod⟩
    | negative =>
      have hsigned : signed .negative (code m e) = signBit + code m e := rfl
      refine ⟨decide_eq_true (Nat.le_add_right _ _), ?_, ?_⟩
      · rw [hsigned, Nat.add_mod_left, Nat.mod_eq_of_lt hlt]
      · rw [← hmod, hsigned]
        simp only [signBit, exponentBit]
        omega
  unfold Dyadic.ofFloat?
  dsimp only
  rw [hrest, hfrac, hdiv, hsign]
  by_cases hnormal : exponentBit ≤ m
  · obtain ⟨hone, hwhole⟩ : m / exponentBit = 1 ∧ exponentBit + m % exponentBit = m := by
      simp only [exponentBit] at *
      omega
    rw [hone, if_neg (by omega), if_neg (by omega), hwhole]
    refine congrArg (fun q => some (Dyadic.mk (minus s) m q)) ?_
    omega
  · have hleast : e = -1074 := hfull.resolve_right hnormal
    have hlow' := Nat.lt_of_not_le hnormal
    rw [hleast, Nat.div_eq_of_lt hlow', Nat.mod_eq_of_lt hlow']
    rfl

theorem ofFloat?_of_infinity {s : Sign} (hx : x.toBits.toNat = signed s infinityCode) :
    Dyadic.ofFloat? x = none := by
  unfold Dyadic.ofFloat?
  dsimp only
  rw [hx]
  cases s <;> rfl

theorem ofFloat?_of_notANumber (h : x.toModel.unpack = .notANumber) :
    Dyadic.ofFloat? x = none := by
  have hexponent : @UnpackedFloat.unpackExponent .binary64 x.toModel.toBits.toBitVec = -1#11 := by
    by_contra htop
    have hunpack : UnpackedFloat.unpack .binary64 x.toModel.toBits.toBitVec = .notANumber := h
    unfold UnpackedFloat.unpack at hunpack
    dsimp only at hunpack
    rw [if_neg htop] at hunpack
    by_cases hleast : @UnpackedFloat.unpackExponent .binary64 x.toModel.toBits.toBitVec = 0#11
    · rw [if_pos hleast] at hunpack
      by_cases hnone : @UnpackedFloat.unpackMantissa .binary64 x.toModel.toBits.toBitVec = 0#52
      · rw [dif_pos hnone] at hunpack
        cases hunpack
      · rw [dif_neg hnone] at hunpack
        cases hunpack
    · rw [if_neg hleast] at hunpack
      cases hunpack
  have hall : x.toBits.toNat / exponentBit % 2048 = 2047 := by
    have hnat := congrArg BitVec.toNat hexponent
    rw [toNat_unpackExponent] at hnat
    exact hnat
  have hfield : x.toBits.toNat % signBit / exponentBit = 0x7FF := by
    simp only [signBit, exponentBit] at *
    omega
  unfold Dyadic.ofFloat?
  dsimp only
  rw [if_pos hfield]

/-- Either a float has no exact number, and is no number or an infinity, or
it has parts that fit, and all that is read off it is read off these. -/
theorem ofFloat?_cases (x : Float) :
    (Dyadic.ofFloat? x = none ∧
        (x.toModel.unpack = .notANumber ∨ ∃ s, x.toModel.unpack = .infinity s)) ∨
      ∃ s m e, Fits m e ∧ Dyadic.ofFloat? x = some ⟨minus s, m, e⟩ ∧
        x.toBits.toNat = signed s (code m e) ∧ Sized s x.toModel.unpack (m * 2 ^ e) := by
  have hstands := stands_toModel x
  generalize hu : x.toModel.unpack = u at hstands
  cases hstands with
  | notANumber => exact .inl ⟨ofFloat?_of_notANumber hu, .inl rfl⟩
  | infinity s hn => exact .inl ⟨ofFloat?_of_infinity hn, .inr ⟨s, rfl⟩⟩
  | zero s hn =>
    have hcode : x.toBits.toNat = signed s (code 0 (-1074)) := hn
    exact .inr ⟨s, 0, -1074, fits_zero, ofFloat?_of_fits fits_zero hcode, hcode, sized_zero s⟩
  | finite s m e hm hfits hn =>
    exact .inr ⟨s, m, e, hfits, ofFloat?_of_fits hfits hn, hn,
      .finite m e hm hfits.low hfits.width hfits.full⟩

/-- The parts of a float with an exact number. -/
theorem parts_of_ofFloat? (h : Dyadic.ofFloat? x = some d) :
    ∃ s, minus s = d.negative ∧ Fits d.m d.q ∧ x.toBits.toNat = signed s (code d.m d.q) ∧
      Sized s x.toModel.unpack d.size := by
  rcases ofFloat?_cases x with ⟨hnone, -⟩ | ⟨s, m, e, hfits, hsome, hbits, hsized⟩
  · rw [hnone] at h
    cases h
  · rw [hsome, Option.some.injEq] at h
    subst h
    exact ⟨s, rfl, hfits, hbits, hsized⟩

theorem onGrid_size (h : Dyadic.ofFloat? x = some d) : OnGrid d.size := by
  obtain ⟨-, -, hfits, -, -⟩ := parts_of_ofFloat? h
  exact ⟨d.m, d.q, hfits.width.le, hfits.low, rfl⟩

/-- The floats with an exact number are the finite ones. -/
theorem isFinite_iff : x.isFinite = true ↔ ∃ d, Dyadic.ofFloat? x = some d := by
  have hmodel : x.isFinite = x.toModel.unpack.isFinite := rfl
  rw [hmodel]
  rcases ofFloat?_cases x with ⟨hnone, hu⟩ | ⟨s, m, e, -, hsome, -, hsized⟩
  · have hinfinite : ¬ x.toModel.unpack.isFinite = true := by
      rcases hu with hu | ⟨s, hu⟩ <;> rw [hu] <;> exact Bool.false_ne_true
    refine iff_of_false hinfinite ?_
    rintro ⟨d, hd⟩
    rw [hnone] at hd
    cases hd
  · refine iff_of_true ?_ ⟨_, hsome⟩
    generalize x.toModel.unpack = u at hsized
    generalize (m : Rat) * 2 ^ e = r at hsized
    cases hsized <;> rfl

/-- A float is determined by its exact number. -/
theorem ofFloat?_inj (hx : Dyadic.ofFloat? x = some d) (hy : Dyadic.ofFloat? y = some d) :
    x = y := by
  obtain ⟨s, hs, -, hsx, -⟩ := parts_of_ofFloat? hx
  obtain ⟨t, ht, -, hty, -⟩ := parts_of_ofFloat? hy
  obtain rfl := minus_inj (hs.trans ht.symm)
  have hbits : x.toBits = y.toBits := UInt64.toNat_inj.mp (hsx.trans hty.symm)
  obtain ⟨⟨xbits, hxvalid⟩⟩ := x
  obtain ⟨⟨ybits, hyvalid⟩⟩ := y
  obtain rfl : xbits = ybits := hbits
  rfl

/-- A float is determined by its sign and its size. -/
theorem eq_of_size_eq (hx : Dyadic.ofFloat? x = some d) (hy : Dyadic.ofFloat? y = some c)
    (hsign : d.negative = c.negative) (hsize : d.size = c.size) : x = y := by
  obtain ⟨-, -, hd, -, -⟩ := parts_of_ofFloat? hx
  obtain ⟨-, -, hc, -, -⟩ := parts_of_ofFloat? hy
  have hq : d.q = c.q := by
    rcases lt_trichotomy d.q c.q with h | h | h
    · exact absurd hsize (hd.size_lt_size hc h).ne
    · exact h
    · exact absurd hsize (hc.size_lt_size hd h).ne'
  have hm : d.m = c.m := by
    unfold Dyadic.size at hsize
    rw [hq] at hsize
    exact Nat.cast_inj.mp (mul_right_cancel₀ (zpow_pos_two c.q).ne' hsize)
  obtain ⟨dneg, dm, dq⟩ := d
  obtain ⟨cneg, cm, cq⟩ := c
  dsimp only at hsign hm hq
  subst hsign hm hq
  exact ofFloat?_inj hx hy

-- ============================================================== operations

/-- A number of this sign and size is shown by the float: exactly, or by
none if it is out of range. -/
structure Shows (x : Float) (negative : Bool) (r : Rat) : Prop where
  inRange : r < 2 ^ 1024 → ∃ d, Dyadic.ofFloat? x = some d ∧ d.negative = negative ∧ d.size = r
  beyond : 2 ^ 1024 ≤ r → Dyadic.ofFloat? x = none

theorem Shows.of_some {negative : Bool} {r : Rat} (h : Shows x negative r)
    (hx : Dyadic.ofFloat? x = some d) : d.negative = negative ∧ d.size = r := by
  rcases lt_or_ge r (2 ^ 1024) with hr | hr
  · obtain ⟨d', hd', hsign, hsize⟩ := h.inRange hr
    rw [hx, Option.some.injEq] at hd'
    subst hd'
    exact ⟨hsign, hsize⟩
  · rw [h.beyond hr] at hx
    cases hx

/-- A result is packed into the float that shows it. -/
theorem shows_pack {s : Sign} {u : UnpackedFloat} {r : Rat} (h : Sized s u r) :
    Shows (.ofModel (pack u)) (minus s) r := by
  cases h with
  | zero =>
    have hbits : (Float.ofModel (pack (.zero s))).toBits.toNat = signed s (code 0 (-1074)) :=
      toNat_packComponents s 0#11 0#52
    refine ⟨fun _ => ⟨_, ofFloat?_of_fits fits_zero hbits, rfl, ?_⟩, fun hr => ?_⟩
    · show ((0 : Nat) : Rat) * _ = 0
      rw [Nat.cast_zero, zero_mul]
    · exact absurd hr (not_le.mpr (by positivity))
  | finite m e hm hleast hwidth hfull =>
    by_cases he : e ≤ 971
    · have hfits : Fits m e := ⟨hleast, he, hwidth, hfull⟩
      have hbits : (Float.ofModel (pack (.finite s m e hm))).toBits.toNat = signed s (code m e) :=
        toNat_pack_of_fits s hm hfits
      exact ⟨fun _ => ⟨_, ofFloat?_of_fits hfits hbits, rfl, rfl⟩,
        fun hr => absurd hr (not_le.mpr hfits.size_lt)⟩
    · have hbits : (Float.ofModel (pack (.finite s m e hm))).toBits.toNat = signed s infinityCode :=
        toNat_pack_overflow s hm (by omega)
      have hm' := hfull.resolve_left (by omega)
      refine ⟨fun hr => absurd hr (not_lt.mpr ?_), fun _ => ofFloat?_of_infinity hbits⟩
      calc (2 : Rat) ^ 1024 = 2 ^ ((972 : Int) + 52) := rfl
        _ ≤ 2 ^ (e + 52) := zpow_le_zpow_right₀ one_le_two (by omega)
        _ = exponentBit * 2 ^ e := (exponentBit_mul_zpow e).symm
        _ ≤ m * 2 ^ e := mul_le_mul_of_nonneg_right (Nat.cast_le.mpr hm') (zpow_pos_two e).le

theorem shows_mul (hx : Dyadic.ofFloat? x = some d) (hy : Dyadic.ofFloat? y = some c) :
    ∃ m e, Rounding (d.size * c.size) m e ∧
      Shows (x * y) (d.negative ^^ c.negative) (m * 2 ^ e) := by
  obtain ⟨s, hs, -, -, hsx⟩ := parts_of_ofFloat? hx
  obtain ⟨t, ht, -, -, hsy⟩ := parts_of_ofFloat? hy
  obtain ⟨m, e, hround, hsized⟩ := sized_mul hsx hsy
  have hshows := shows_pack hsized
  rw [minus_mul, hs, ht] at hshows
  exact ⟨m, e, hround, hshows⟩

theorem shows_div (hx : Dyadic.ofFloat? x = some d) (hy : Dyadic.ofFloat? y = some c)
    (hc : c.size ≠ 0) :
    ∃ m e, Rounding (d.size / c.size) m e ∧
      Shows (x / y) (d.negative ^^ c.negative) (m * 2 ^ e) := by
  obtain ⟨s, hs, -, -, hsx⟩ := parts_of_ofFloat? hx
  obtain ⟨t, ht, -, -, hsy⟩ := parts_of_ofFloat? hy
  obtain ⟨m, e, hround, hsized⟩ := sized_div hsx hsy hc
  have hshows := shows_pack hsized
  rw [minus_div, hs, ht] at hshows
  exact ⟨m, e, hround, hshows⟩

/-- What is no number, or an infinity, stays so in a quotient. -/
theorem ofFloat?_div_eq_none (hx : Dyadic.ofFloat? x = none) (hy : Dyadic.ofFloat? y = some c) :
    Dyadic.ofFloat? (x / y) = none := by
  have hnan : Dyadic.ofFloat? (.ofModel (pack .notANumber)) = none := by decide +kernel
  have hinf : ∀ s, Dyadic.ofFloat? (.ofModel (pack (.infinity s))) = none := fun s =>
    ofFloat?_of_infinity (toNat_pack_infinity s)
  have hdiv : x / y
      = .ofModel (pack (UnpackedFloat.div .binary64 x.toModel.unpack y.toModel.unpack)) := rfl
  obtain ⟨t, -, -, -, hsized⟩ := parts_of_ofFloat? hy
  rw [hdiv]
  generalize y.toModel.unpack = w at hsized
  generalize c.size = r at hsized
  rcases ofFloat?_cases x with ⟨-, hu | ⟨s, hu⟩⟩ | ⟨s, m, e, -, hsome, -, -⟩
  · rw [hu]
    exact hnan
  · rw [hu]
    cases hsized <;> exact hinf _
  · rw [hsome] at hx
    cases hx

/-- A change of the sign changes nothing else. -/
theorem ofFloat?_neg (h : Dyadic.ofFloat? x = some d) :
    ∃ c, Dyadic.ofFloat? (-x) = some c ∧ c.negative = (!d.negative) ∧ c.size = d.size := by
  obtain ⟨s, hs, hfits, -, hsized⟩ := parts_of_ofFloat? h
  have hshows := shows_pack hsized.neg
  rw [minus_neg, hs] at hshows
  exact hshows.inRange hfits.size_lt

/-- A natural number of 53 bits is a float. It is converted and then
multiplied by one. -/
theorem ofFloat?_ofNat {n : Nat} (hn : n < 2 * exponentBit) :
    ∃ d, Dyadic.ofFloat? (Float.ofNat n) = some d ∧ d.negative = false ∧ d.size = n := by
  have hgrid : OnGrid n := onGrid_natCast hn.le
  have hrange : (n : Rat) < 2 ^ 1024 := by
    calc (n : Rat) < (2 * exponentBit : Nat) := Nat.cast_lt.mpr hn
      _ = 2 ^ 53 := by norm_num [exponentBit]
      _ ≤ 2 ^ 1024 := pow_le_pow_right₀ one_le_two (by omega)
  have hword : n.toUInt64.toNat = n := by
    have hlt : n < 2 ^ 64 := by
      simp only [exponentBit] at hn
      omega
    rw [Nat.toUInt64, UInt64.toNat_ofNat', Nat.mod_eq_of_lt hlt]
  have hfloat : Float.ofNat n
      = .ofModel (pack (UnpackedFloat.ofNat .binary64 n)) * Float.ofBits 0x3FF0000000000000 := by
    have hfast : n < 2 ^ 53 ∧ 0 ≤ 22 := ⟨hn, by omega⟩
    show Float.ofScientific n false 0 = _
    unfold Float.ofScientific
    rw [dif_pos hfast]
    show Float.ofModel (pack (UnpackedFloat.ofNat .binary64 n.toUInt64.toNat)) * _ = _
    rw [hword]
    rfl
  have hone : Dyadic.ofFloat? (Float.ofBits 0x3FF0000000000000) = some ⟨false, exponentBit, -52⟩ := by
    decide +kernel
  have hunit : Dyadic.size ⟨false, exponentBit, -52⟩ = 1 := by
    show (exponentBit : Rat) * 2 ^ (-52 : Int) = 1
    norm_num [exponentBit]
  obtain ⟨m, e, hround, hsized⟩ := sized_ofNat n
  have hshows := shows_pack hsized
  rw [hround.exact hgrid] at hshows
  obtain ⟨d, hd, hsign, hsize⟩ := hshows.inRange hrange
  obtain ⟨m', e', hround', hshows'⟩ := shows_mul hd hone
  rw [hsize, hunit, mul_one] at hround'
  rw [← hfloat, hround'.exact hgrid, hsign] at hshows'
  exact hshows'.inRange hrange

end HostTelemetry.Number
