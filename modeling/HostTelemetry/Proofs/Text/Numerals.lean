/-
What a text says when it is taken for a number, apart from how it is read.

`IsDigits` is a run of decimal digits with its value, `IsNatural` lets a plus
sign stand in front, and `IsInteger` either sign. Each reader is tied to its
predicate by an equivalence, so a text is refused only where it is no numeral
or its value is out of range; leading zeros do no harm. The decimal form of an
integer is a numeral of it, hence it is read back wherever it is in range
(`int64?_decimal`).
-/
import HostTelemetry.Proofs.Text.Cuts
import HostTelemetry.Text.Integer

namespace HostTelemetry.Text

-- ============================================================= numerals

/-- The text is one or more decimal digits of this value. -/
structure IsDigits (s : List Char) (n : Nat) : Prop where
  nonempty : s ≠ []
  digits : ∀ c ∈ s, c.isDigit = true
  value : Nat.ofDigitChars 10 s 0 = n

/-- The text is digits of this value, with or without a plus sign. -/
inductive IsNatural : List Char → Nat → Prop
  | plain {ds : List Char} {n : Nat} (h : IsDigits ds n) : IsNatural ds n
  | plus {ds : List Char} {n : Nat} (h : IsDigits ds n) : IsNatural ('+' :: ds) n

/-- The text is digits with or without a sign, and stands for this integer. -/
inductive IsInteger : List Char → Int → Prop
  | plain {ds : List Char} {n : Nat} (h : IsDigits ds n) : IsInteger ds n
  | plus {ds : List Char} {n : Nat} (h : IsDigits ds n) : IsInteger ('+' :: ds) n
  | minus {ds : List Char} {n : Nat} (h : IsDigits ds n) : IsInteger ('-' :: ds) (-n)

/-- The integer has 64 bits. -/
def IsInt64 (n : Int) : Prop := minI64 ≤ n ∧ n ≤ maxI64

instance (n : Int) : Decidable (IsInt64 n) := inferInstanceAs (Decidable (_ ∧ _))

variable {s : List Char} {c : Char}

theorem IsDigits.not_mem {n : Nat} (h : IsDigits s n) (hc : c.isDigit = false) : c ∉ s := by
  intro hmem
  rw [h.digits c hmem] at hc
  cases hc

theorem IsNatural.not_mem {n : Nat} (h : IsNatural s n) (hc : c.isDigit = false) (hplus : c ≠ '+') :
    c ∉ s := by
  cases h with
  | plain h => exact h.not_mem hc
  | plus h => exact List.not_mem_cons_of_ne_of_not_mem hplus (h.not_mem hc)

theorem IsInteger.not_mem {n : Int} (h : IsInteger s n) (hc : c.isDigit = false) (hplus : c ≠ '+')
    (hminus : c ≠ '-') : c ∉ s := by
  cases h with
  | plain h => exact h.not_mem hc
  | plus h => exact List.not_mem_cons_of_ne_of_not_mem hplus (h.not_mem hc)
  | minus h => exact List.not_mem_cons_of_ne_of_not_mem hminus (h.not_mem hc)

-- ============================================================== reading

theorem isDigit_iff : c.isDigit = true ↔ 48 ≤ c.toNat ∧ c.toNat ≤ 57 := by
  simp only [Char.isDigit, ge_iff_le, Bool.and_eq_true, decide_eq_true_eq, UInt32.le_iff_toNat_le]
  rfl

theorem digit?_ten (c : Char) :
    digit? 10 c = if c.isDigit then some (c.toNat - '0'.toNat) else none := by
  simp only [digit?, isDigit_iff]
  split
  · rename_i hrange
    have hten : c.toNat - 48 < 10 := by omega
    exact Option.filter_eq_some_iff.mpr ⟨rfl, decide_eq_true hten⟩
  · -- Letters have values from ten on.
    split
    · exact Option.filter_eq_none_iff.mpr (by simp)
    · split
      · exact Option.filter_eq_none_iff.mpr (by simp)
      · rfl

theorem digitsValue?_eq_some_iff {acc n : Nat} :
    digitsValue? 10 acc s = some n ↔
      (∀ c ∈ s, c.isDigit = true) ∧ Nat.ofDigitChars 10 s acc = n := by
  induction s generalizing acc with
  | nil => simp [digitsValue?]
  | cons c r ih =>
    rw [digitsValue?, digit?_ten]
    by_cases hc : c.isDigit = true
    · rw [if_pos hc, Option.bind_some, ih, Nat.ofDigitChars_cons, Nat.mul_comm 10 acc]
      simp [hc]
    · simp [hc]

theorem digits?_eq_some_iff {n : Nat} : digits? 10 s = some n ↔ IsDigits s n := by
  cases s with
  | nil =>
    constructor
    · intro h
      cases h
    · intro h
      exact absurd rfl h.nonempty
  | cons c r =>
    rw [digits?, digitsValue?_eq_some_iff]
    · constructor
      · intro h
        exact ⟨List.cons_ne_nil c r, h.1, h.2⟩
      · intro h
        exact ⟨h.digits, h.value⟩
    · exact List.cons_ne_nil c r

theorem natural?_eq_some_iff {max n : Nat} :
    natural? max s = some n ↔ IsNatural s n ∧ n ≤ max := by
  simp only [natural?, naturalIn?, Option.filter_eq_some_iff, digits?_eq_some_iff, decide_eq_true_eq]
  apply and_congr_left'
  split
  · constructor
    · exact .plus
    · intro h
      cases h with
      | plain h => exact absurd List.mem_cons_self (h.not_mem (by decide))
      | plus h => exact h
  · rename_i hplus
    constructor
    · exact .plain
    · intro h
      cases h with
      | plain h => exact h
      | plus _ => exact absurd rfl (hplus _)

theorem integer?_eq_some_iff {min max n : Int} :
    integer? min max s = some n ↔ IsInteger s n ∧ min ≤ n ∧ n ≤ max := by
  simp only [integer?, Option.filter_eq_some_iff, Bool.and_eq_true, decide_eq_true_eq]
  apply and_congr_left'
  split
  · simp only [Option.pure_def, Option.bind_eq_bind, Option.map_bind, Option.bind_eq_some_iff,
      digits?_eq_some_iff, Function.comp_apply, Option.map_some, Option.some.injEq]
    constructor
    · intro h
      obtain ⟨m, h, rfl⟩ := h
      exact .minus h
    · intro h
      cases h with
      | plain h => exact absurd List.mem_cons_self (h.not_mem (by decide))
      | minus h => exact ⟨_, h, rfl⟩
  · simp only [Option.map_eq_some_iff, digits?_eq_some_iff, Int.ofNat_eq_natCast]
    constructor
    · intro h
      obtain ⟨m, h, rfl⟩ := h
      exact .plus h
    · intro h
      cases h with
      | plain h => exact absurd List.mem_cons_self (h.not_mem (by decide))
      | plus h => exact ⟨_, h, rfl⟩
  · rename_i hminus hplus
    simp only [Option.map_eq_some_iff, digits?_eq_some_iff, Int.ofNat_eq_natCast]
    constructor
    · intro h
      obtain ⟨m, h, rfl⟩ := h
      exact .plain h
    · intro h
      cases h with
      | plain h => exact ⟨_, h, rfl⟩
      | plus _ => exact absurd rfl (hplus _)
      | minus _ => exact absurd rfl (hminus _)

theorem int64?_eq_some_iff {n : Int} : int64? s = some n ↔ IsInteger s n ∧ IsInt64 n :=
  integer?_eq_some_iff

theorem int64?_eq_none_iff : int64? s = none ↔ ∀ n, IsInt64 n → ¬ IsInteger s n := by
  rw [Option.eq_none_iff_forall_ne_some]
  constructor
  · intro hnone n hn hs
    exact hnone n (int64?_eq_some_iff.mpr ⟨hs, hn⟩)
  · intro hnone n hread
    obtain ⟨hs, hn⟩ := int64?_eq_some_iff.mp hread
    exact hnone n hn hs

-- ============================================================== writing

theorem isDigits_decimalDigits (n : Nat) : IsDigits (decimalDigits n) n where
  nonempty := Nat.toDigits_ne_nil
  digits _ hmem := Nat.isDigit_of_mem_toDigits (by decide) (by decide) hmem
  value := Nat.ofDigitChars_toDigits (by decide) (by decide)

theorem isInteger_decimal (n : Int) : IsInteger (decimal n) n := by
  cases n with
  | ofNat m => exact .plain (isDigits_decimalDigits m)
  | negSucc m => exact .minus (isDigits_decimalDigits (m + 1))

theorem int64?_decimal {n : Int} (h : IsInt64 n) : int64? (decimal n) = some n :=
  int64?_eq_some_iff.mpr ⟨isInteger_decimal n, h⟩

theorem IsInteger.isWord {n : Int} (h : IsInteger s n) : IsWord s := by
  have hdigits : ∀ {ds : List Char} {m : Nat}, IsDigits ds m → ∀ c ∈ ds, isBlank c = false := by
    intro ds m hds c hc
    have hrange := isDigit_iff.mp (hds.digits c hc)
    exact isBlank_of_graphic (by omega) (by omega)
  cases h with
  | plain h => exact ⟨h.nonempty, hdigits h⟩
  | plus h => exact ⟨List.cons_ne_nil _ _, List.forall_mem_cons.mpr ⟨by decide, hdigits h⟩⟩
  | minus h => exact ⟨List.cons_ne_nil _ _, List.forall_mem_cons.mpr ⟨by decide, hdigits h⟩⟩

theorem decimal_eq_toString (n : Int) : decimal n = (toString n).toList := by
  cases n with
  | ofNat m => exact Nat.toList_repr.symm
  | negSucc m =>
    show '-' :: Nat.toDigits 10 (m + 1) = ("-" ++ Nat.repr (m + 1)).toList
    rw [String.toList_append, Nat.toList_repr]
    rfl

end HostTelemetry.Text
