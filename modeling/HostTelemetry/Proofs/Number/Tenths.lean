/-
One decimal place, on paper and as a float.

# Two ways to a place

A text with one place takes the tenths that are nearest to the exact size,
halves to even (`nearestEven_scaled`). A figure with one place is multiplied,
rounded to an integer with halves away from zero, and divided
(`ofFloat?_roundHalfAway`). The sign is the same on both ways, so two texts are
the same if their tenths are (`fixed_eq_fixed_iff`).

# Where they meet

Up to 2^49 dividing costs nothing: what is printed of the figure is the integer
that the product was rounded to. The product is within half a unit of the
nearest tenths, so the ways part only where it stands on the upper end of that
half unit (`LiftedByHalf`). That is so for a tie with an even lower neighbour,
which only the text sends down, and for a figure just below a tie, where the
product is the tie.

From 2^49 on the product is whole and floats are more than a tenth apart. Then
the ways meet only where dividing the product leads back (`LostInTenfold`).
-/
import HostTelemetry.Number.Decimal
import HostTelemetry.Proofs.Number.Arithmetic
import HostTelemetry.Proofs.Text.Numerals

namespace HostTelemetry.Number

variable {x y : Float} {d c : Dyadic}

-- ======================================================== nearest integers

theorem size_of_nonneg (hq : 0 ≤ d.q) : d.size = (d.m * 2 ^ d.q.toNat : Nat) := by
  obtain ⟨k, hk⟩ : ∃ k : Nat, d.q = k := ⟨d.q.toNat, by omega⟩
  unfold Dyadic.size
  rw [hk, Int.toNat_natCast, zpow_natCast]
  push_cast
  rfl

theorem size_of_neg (hq : d.q < 0) : d.size = d.m / (2 ^ (-d.q).toNat : Nat) := by
  obtain ⟨k, hk⟩ : ∃ k : Nat, d.q = -(k : Int) := ⟨(-d.q).toNat, by omega⟩
  unfold Dyadic.size
  rw [hk, neg_neg, Int.toNat_natCast, zpow_neg, zpow_natCast, div_eq_mul_inv]
  push_cast
  rfl

/-- What is printed with a number of places is nearest to the size in units
of the last place. -/
theorem nearestEven_scaled (places : Nat) (d : Dyadic) :
    NearestEven (d.size * 10 ^ places) (d.scaled places) := by
  unfold Dyadic.scaled
  simp only [Nat.pow_eq]
  split
  · rename_i hq
    have hsize : d.size * 10 ^ places = (d.m * 2 ^ d.q.toNat * 10 ^ places : Nat) := by
      rw [size_of_nonneg hq]
      push_cast
      rfl
    rw [hsize]
    exact nearestEven_natCast _
  · rename_i hq
    have hsize : d.size * 10 ^ places = (d.m * 10 ^ places : Nat) / (2 ^ (-d.q).toNat : Nat) := by
      rw [size_of_neg (not_le.mp hq), div_mul_eq_mul_div]
      push_cast
      rfl
    rw [hsize]
    exact nearestEven_roundDiv _ (Nat.two_pow_pos _)

/-- A float with a fraction is below 2^52. -/
theorem size_lt_of_neg (h : Dyadic.ofFloat? x = some d) (hq : d.q < 0) : d.size < exponentBit := by
  obtain ⟨-, -, hfits, -, -⟩ := parts_of_ofFloat? h
  calc (d.m : Rat) * 2 ^ d.q < (2 * exponentBit : Nat) * 2 ^ (-1 : Int) := by
        refine mul_lt_mul (Nat.cast_lt.mpr hfits.width) ?_ (zpow_pos_two _) (Nat.cast_nonneg _)
        exact zpow_le_zpow_right₀ one_le_two (by omega)
    _ = exponentBit := by
      push_cast
      rw [zpow_neg_one]
      ring

/-- Rounding to an integer keeps the sign, and the integer is a float. -/
theorem ofFloat?_roundHalfAway (h : Dyadic.ofFloat? x = some d) :
    ∃ c n, Dyadic.ofFloat? (roundHalfAway x) = some c ∧ c.negative = d.negative ∧
      c.size = (n : Nat) ∧ NearestAway d.size n := by
  unfold roundHalfAway
  rw [h]
  simp only [Nat.pow_eq]
  split
  · rename_i hq
    refine ⟨d, _, h, rfl, size_of_nonneg hq, ?_⟩
    rw [size_of_nonneg hq]
    exact nearestAway_natCast _
  · rename_i hq
    have hq' := not_le.mp hq
    have hnear := nearestAway_roundDiv d.m (Nat.two_pow_pos (-d.q).toNat)
    rw [← size_of_neg hq'] at hnear
    have hwidth : roundDiv .awayFromZero d.m (2 ^ (-d.q).toNat) < 2 * exponentBit := by
      have hlow := hnear.low
      have hless := size_lt_of_neg h hq'
      have hbit : (1 : Rat) ≤ exponentBit := by norm_num [exponentBit]
      rw [← Nat.cast_lt (α := Rat)]
      push_cast
      linarith
    obtain ⟨c, hc, hsign, hsize⟩ := ofFloat?_ofNat hwidth
    unfold withSign
    split
    · rename_i hneg
      obtain ⟨b, hb, hbsign, hbsize⟩ := ofFloat?_neg hc
      rw [hsign] at hbsign
      exact ⟨b, _, hb, hbsign.trans hneg.symm, hbsize.trans hsize, hnear⟩
    · rename_i hneg
      exact ⟨c, _, hc, hsign.trans (Bool.eq_false_iff.mpr hneg).symm, hsize, hnear⟩

-- ======================================================= texts with places

/-- Zeros in front do not count. -/
theorem ofDigitChars_padded (k : Nat) (ds : List Char) :
    Nat.ofDigitChars 10 (List.replicate k '0' ++ ds) 0 = Nat.ofDigitChars 10 ds 0 := by
  induction k with
  | zero => rfl
  | succ k ih =>
    rw [List.replicate_succ, List.cons_append, Nat.ofDigitChars_cons]
    exact ih

/-- A text with places, read without the point. -/
theorem ofDigitChars_withPoint (places n : Nat) :
    Nat.ofDigitChars 10 ((withPoint places n).filter (· ≠ '.')) 0 = n := by
  have hdigits := Text.isDigits_decimalDigits n
  unfold withPoint
  dsimp only
  generalize places + 1 - (Text.decimalDigits n).length = k
  have hvalue : Nat.ofDigitChars 10 (List.replicate k '0' ++ Text.decimalDigits n) 0 = n :=
    (ofDigitChars_padded k _).trans hdigits.value
  have hkept : ∀ c ∈ List.replicate k '0' ++ Text.decimalDigits n, decide (c ≠ '.') = true := by
    intro c hc
    refine decide_eq_true ?_
    rintro rfl
    rcases List.mem_append.mp hc with hc | hc
    · cases List.eq_of_mem_replicate hc
    · exact hdigits.not_mem (by decide) hc
  generalize List.replicate k '0' ++ Text.decimalDigits n = ds at *
  split
  · rw [List.filter_eq_self.mpr hkept, hvalue]
  · have htaken := fun c hc => hkept c (List.mem_of_mem_take (i := ds.length - places) hc)
    have hdropped := fun c hc => hkept c (List.mem_of_mem_drop (i := ds.length - places) hc)
    rw [List.filter_append, List.filter_eq_self.mpr htaken,
      List.filter_cons_of_neg (by decide), List.filter_eq_self.mpr hdropped,
      List.take_append_drop, hvalue]

theorem withPoint_inj {places n k : Nat} (h : withPoint places n = withPoint places k) : n = k := by
  rw [← ofDigitChars_withPoint places n, h, ofDigitChars_withPoint]

/-- Numbers of one sign have one text if they agree in units of the last
place. -/
theorem fixed_eq_fixed_iff (hx : Dyadic.ofFloat? x = some d) (hy : Dyadic.ofFloat? y = some c)
    (hsign : d.negative = c.negative) (places : Nat) :
    fixed places x = fixed places y ↔ d.scaled places = c.scaled places := by
  unfold fixed
  rw [hx, hy]
  dsimp only
  rw [hsign]
  constructor
  · intro h
    have hlist := String.ofList_injective h
    split at hlist
    · exact withPoint_inj (List.cons.inj hlist).2
    · exact withPoint_inj hlist
  · intro h
    rw [h]

-- ======================================================== tenfold and tenth

theorem ofFloat?_ten : Dyadic.ofFloat? 10 = some ⟨false, 0x14000000000000, -49⟩ := by
  decide +kernel

theorem size_ten : Dyadic.size ⟨false, 0x14000000000000, -49⟩ = 10 := by
  show ((0x14000000000000 : Nat) : Rat) * 2 ^ (-49 : Int) = 10
  norm_num

theorem shows_tenfold (hx : Dyadic.ofFloat? x = some d) :
    ∃ m e, Rounding (d.size * 10) m e ∧ Shows (x * 10) d.negative (m * 2 ^ e) := by
  have hshows := shows_mul hx ofFloat?_ten
  rw [size_ten, Bool.xor_false] at hshows
  exact hshows

theorem shows_tenth (hx : Dyadic.ofFloat? x = some d) :
    ∃ m e, Rounding (d.size / 10) m e ∧ Shows (x / 10) d.negative (m * 2 ^ e) := by
  have hshows := shows_div hx ofFloat?_ten (by rw [size_ten]; norm_num)
  rw [size_ten, Bool.xor_false] at hshows
  exact hshows

theorem onGrid_large : OnGrid (2 ^ 49) := ⟨1, 49, by decide, by omega, by norm_num⟩

theorem onGrid_large_tenfold : OnGrid (10 * 2 ^ 49) := ⟨5, 50, by decide, by omega, by norm_num⟩

theorem inRange_of_le {r : Rat} (h : r ≤ 10 * 2 ^ 49) : r < 2 ^ 1024 := by
  calc r ≤ 10 * 2 ^ 49 := h
    _ < 2 ^ 53 := by norm_num
    _ ≤ 2 ^ 1024 := pow_le_pow_right₀ one_le_two (by omega)

/-- A tenth of an integer is printed as that integer in tenths. -/
theorem scaled_tenth {n : Nat} (hx : Dyadic.ofFloat? x = some d) (hsize : d.size = n)
    (hn : (n : Rat) ≤ 10 * 2 ^ 49) :
    ∃ c, Dyadic.ofFloat? (x / 10) = some c ∧ c.negative = d.negative ∧ c.scaled 1 = n := by
  obtain ⟨m, e, hround, hshows⟩ := shows_tenth hx
  rw [hsize] at hround
  have htenth : (n : Rat) / 10 ≤ 2 ^ (49 : Int) := by
    rw [div_le_iff₀ (by norm_num)]
    exact hn.trans_eq (mul_comm _ _)
  have hulp : (2 : Rat) ^ ((49 : Int) - 54) = 1 / 32 := by norm_num
  have hnear := hround.near (by omega) htenth
  rw [hulp] at hnear
  obtain ⟨hlow, hhigh⟩ := hnear
  obtain ⟨c, hc, hsign, hcsize⟩ := hshows.inRange (inRange_of_le (by linarith))
  rw [← hcsize] at hlow hhigh
  refine ⟨c, hc, hsign, (nearestEven_scaled 1 c).unique (nearestEven_of_lt ?_ ?_)⟩
  · linarith
  · linarith

-- ============================================================ up to 2^49

/-- Ten times the figure, as a float, stands on the half above the tenths
that are nearest to the figure itself. -/
def LiftedByHalf (x : Float) : Prop :=
  ∃ d p, Dyadic.ofFloat? x = some d ∧ Dyadic.ofFloat? (x * 10) = some p ∧
    p.size = d.scaled 1 + 1 / 2

/-- The figure with one place is finite and printed as the figure is. -/
def KeepsTenths (x : Float) : Prop := (round1 x).isFinite = true ∧ fixed 1 (round1 x) = fixed 1 x

/-- A figure with one place is printed as the integer to which its tenfold
was rounded, and the tenfold is within the half unit around the tenths of the
figure. -/
theorem round1_small (hx : Dyadic.ofFloat? x = some d) (h : d.size ≤ 2 ^ 49) :
    ∃ p c, Dyadic.ofFloat? (x * 10) = some p ∧ Dyadic.ofFloat? (round1 x) = some c ∧
      c.negative = d.negative ∧ NearestAway p.size (c.scaled 1) ∧
      (d.scaled 1 : Rat) ≤ p.size + 1 / 2 ∧ p.size ≤ (d.scaled 1 : Rat) + 1 / 2 := by
  have hn := nearestEven_scaled 1 d
  rw [pow_one] at hn
  obtain ⟨m, e, hround, hshows⟩ := shows_tenfold hx
  obtain ⟨hlow, hhigh⟩ := hround.within_half hn (by norm_num [exponentBit]; linarith)
  have hle := hround.le onGrid_large_tenfold (by linarith)
  obtain ⟨p, hp, hpsign, hpsize⟩ := hshows.inRange (inRange_of_le hle)
  obtain ⟨b, k, hb, hbsign, hbsize, haway⟩ := ofFloat?_roundHalfAway hp
  rw [← hpsize] at hlow hhigh hle
  have hk : (k : Rat) ≤ 10 * 2 ^ 49 := by
    have hklow := haway.low
    have hlt : (k : Rat) < (10 * 2 ^ 49 + 1 : Nat) := by
      push_cast
      linarith
    exact_mod_cast Nat.le_of_lt_succ (Nat.cast_lt.mp hlt)
  obtain ⟨c, hc, hcsign, hck⟩ := scaled_tenth hb hbsize hk
  rw [← hck] at haway
  exact ⟨p, c, hp, hc, (hcsign.trans hbsign).trans hpsign, haway, hlow, hhigh⟩

theorem keepsTenths_small (hx : Dyadic.ofFloat? x = some d) (h : d.size ≤ 2 ^ 49) :
    KeepsTenths x ↔ ¬ LiftedByHalf x := by
  obtain ⟨p, c, hp, hc, hsign, haway, hlow, hhigh⟩ := round1_small hx h
  have hfinite : (round1 x).isFinite = true := isFinite_iff.mpr ⟨c, hc⟩
  have hlifted : LiftedByHalf x ↔ p.size = d.scaled 1 + 1 / 2 := by
    constructor
    · rintro ⟨d', p', hx', hp', hsize⟩
      rw [hx, Option.some.injEq] at hx'
      rw [hp, Option.some.injEq] at hp'
      subst hx' hp'
      exact hsize
    · intro hsize
      exact ⟨d, p, hx, hp, hsize⟩
  rw [KeepsTenths, hlifted, fixed_eq_fixed_iff hc hx hsign, and_iff_right hfinite]
  constructor
  · intro hsame hhalf
    have hless := haway.high
    rw [hsame, hhalf] at hless
    exact absurd hless (lt_irrefl _)
  · intro hhalf
    exact haway.unique ⟨hlow, lt_of_le_of_ne hhigh hhalf⟩

-- ============================================================ from 2^49 on

/-- The figure is so large that floats there are more than a tenth apart,
and does not come back from its tenfold. -/
def LostInTenfold (x : Float) : Prop :=
  ∃ d, Dyadic.ofFloat? x = some d ∧ 2 ^ 49 ≤ d.size ∧ x * 10 / 10 ≠ x

theorem eighths_of_large (hx : Dyadic.ofFloat? x = some d) (h : 2 ^ 49 ≤ d.size) :
    ∃ k : Nat, d.size = k / 8 := by
  have heighth : (2 : Rat) ^ (-3 : Int) = 1 / 8 := by norm_num
  rcases (onGrid_size hx).small_or_multiple (-3) with ⟨-, hsmall⟩ | ⟨k, hk⟩
  · have heq : d.size = 2 ^ 49 := le_antisymm hsmall h
    exact ⟨2 ^ 52, by rw [heq]; norm_num⟩
  · rw [heighth, mul_one_div] at hk
    exact ⟨k, hk⟩

/-- Sizes that differ by an eighth differ by a tenth. -/
theorem size_eq_of_scaled_eq (hx : Dyadic.ofFloat? x = some d) (hy : Dyadic.ofFloat? y = some c)
    (hd : 2 ^ 49 ≤ d.size) (hc : 2 ^ 49 ≤ c.size) (h : c.scaled 1 = d.scaled 1) :
    c.size = d.size := by
  obtain ⟨a, ha⟩ := eighths_of_large hx hd
  obtain ⟨b, hb⟩ := eighths_of_large hy hc
  obtain ⟨hdlow, hdhigh, -⟩ := nearestEven_scaled 1 d
  obtain ⟨hclow, hchigh, -⟩ := nearestEven_scaled 1 c
  rw [h] at hclow hchigh
  rw [ha, pow_one] at hdlow hdhigh
  rw [hb, pow_one] at hclow hchigh
  rcases Nat.lt_trichotomy a b with hab | rfl | hab
  · have hstep : (a : Rat) + 1 ≤ b := by exact_mod_cast hab
    linarith
  · rw [ha, hb]
  · have hstep : (b : Rat) + 1 ≤ a := by exact_mod_cast hab
    linarith

/-- The tenfold is whole if it is in range. -/
theorem tenfold_large (hx : Dyadic.ofFloat? x = some d) (h : 2 ^ 49 ≤ d.size) {p : Dyadic}
    (hp : Dyadic.ofFloat? (x * 10) = some p) :
    p.negative = d.negative ∧ 10 * 2 ^ 49 ≤ p.size ∧ ∃ k : Nat, p.size = k := by
  obtain ⟨m, e, hround, hshows⟩ := shows_tenfold hx
  obtain ⟨hsign, hsize⟩ := hshows.of_some hp
  have hge := hround.ge onGrid_large_tenfold (by linarith)
  have hwhole := hround.exponent_nonneg (by norm_num [exponentBit]; linarith)
  obtain ⟨j, rfl⟩ := Int.eq_ofNat_of_zero_le hwhole
  refine ⟨hsign, hge.trans_eq hsize.symm, m * 2 ^ j, ?_⟩
  rw [hsize, zpow_natCast]
  push_cast
  rfl

/-- What is whole or out of range is not rounded. -/
theorem roundHalfAway_tenfold (hx : Dyadic.ofFloat? x = some d) (h : 2 ^ 49 ≤ d.size) :
    roundHalfAway (x * 10) = x * 10 := by
  rcases hp : Dyadic.ofFloat? (x * 10) with - | p
  · unfold roundHalfAway
    rw [hp]
  · obtain ⟨-, -, k, hk⟩ := tenfold_large hx h hp
    obtain ⟨c, n, hc, hsign, hsize, haway⟩ := ofFloat?_roundHalfAway hp
    rw [hk] at haway
    exact eq_of_size_eq hc hp hsign (by rw [hsize, hk, haway.unique (nearestAway_natCast k)])

theorem keepsTenths_large (hx : Dyadic.ofFloat? x = some d) (h : 2 ^ 49 ≤ d.size) :
    KeepsTenths x ↔ x * 10 / 10 = x := by
  have hround1 : round1 x = x * 10 / 10 := congrArg (· / 10) (roundHalfAway_tenfold hx h)
  rw [KeepsTenths, hround1]
  constructor
  · rintro ⟨hfinite, hsame⟩
    obtain ⟨c, hc⟩ := isFinite_iff.mp hfinite
    rcases hp : Dyadic.ofFloat? (x * 10) with - | p
    · rw [ofFloat?_div_eq_none hp ofFloat?_ten] at hc
      cases hc
    · obtain ⟨hpsign, hpsize, -⟩ := tenfold_large hx h hp
      obtain ⟨m, e, hround, hshows⟩ := shows_tenth hp
      obtain ⟨hcsign, hcsize⟩ := hshows.of_some hc
      have hge : 2 ^ 49 ≤ c.size := by
        rw [hcsize]
        refine hround.ge onGrid_large ?_
        linarith
      have hsign := hcsign.trans hpsign
      rw [fixed_eq_fixed_iff hc hx hsign] at hsame
      exact eq_of_size_eq hc hx hsign (size_eq_of_scaled_eq hx hc h hge hsame)
  · intro hsame
    rw [hsame]
    exact ⟨isFinite_iff.mpr ⟨d, hx⟩, rfl⟩

-- ============================================================ of any size

/-- A finite figure keeps its tenths, unless its tenfold is lifted by half a
unit or does not lead back. -/
theorem keepsTenths_iff (hx : x.isFinite = true) :
    KeepsTenths x ↔ ¬ LiftedByHalf x ∧ ¬ LostInTenfold x := by
  obtain ⟨d, hd⟩ := isFinite_iff.mp hx
  rcases le_or_gt (2 ^ 49) d.size with hlarge | hsmall
  · have hlifted : ¬ LiftedByHalf x := by
      rintro ⟨d', p, -, hp, hsize⟩
      obtain ⟨-, -, k, hk⟩ := tenfold_large hd hlarge hp
      rw [hk] at hsize
      have htwice : (2 * k : Rat) = 2 * d'.scaled 1 + 1 := by linarith
      have hparity : 2 * k = 2 * d'.scaled 1 + 1 := by exact_mod_cast htwice
      omega
    have hlost : LostInTenfold x ↔ x * 10 / 10 ≠ x := by
      constructor
      · rintro ⟨d', -, -, hne⟩
        exact hne
      · intro hne
        exact ⟨d, hd, hlarge, hne⟩
    rw [keepsTenths_large hd hlarge, hlost, not_not, and_iff_right hlifted]
  · have hlost : ¬ LostInTenfold x := by
      rintro ⟨d', hd', hlarge, -⟩
      rw [hd, Option.some.injEq] at hd'
      subst hd'
      exact absurd hlarge (not_le.mpr hsmall)
    rw [keepsTenths_small hd hsmall.le, and_iff_left hlost]

/-- A figure just below a tie, whose tenfold is the tie. -/
example : fixed 1 0.15 = "0.1" ∧ fixed 1 (round1 0.15) = "0.2" := by decide +kernel

/-- A figure whose tenfold does not lead back. -/
example : fixed 1 8797650905911831 = "8797650905911831.0" ∧
    fixed 1 (round1 8797650905911831) = "8797650905911830.0" := by decide +kernel

end HostTelemetry.Number
