/-
Integers written for people: how their digits stand in groups, and that they
are read back.

The writer decides on a comma at each digit, by how many digits follow it. What
that comes to is said without counting (`Groups`): one to three digits in front,
then groups of three, each behind a comma. Where the number of digits that
follow is a multiple of three, the writer and the grouping go on alike, three
digits at a time (`comma_groupThousands`); what stands before them is at most
three digits long and gets no comma (`groupThousands_append`).
-/
import HostTelemetry.PiHole.Summary
import HostTelemetry.Proofs.Text.Numerals
import Mathlib.Data.List.Basic

namespace HostTelemetry.Text

-- ============================================================== grouping

/-- Groups of three digits, from the left. -/
def triples : List Char → List (List Char)
  | a :: b :: c :: r => [a, b, c] :: triples r
  | _ => []

/-- Digits in groups: one to three in front, of which a zero is the first only if
it stands alone, and behind them three in each group. -/
structure Groups (front : List Char) (rest : List (List Char)) : Prop where
  nonempty : front ≠ []
  short : front.length ≤ 3
  triple : ∀ g ∈ rest, g.length = 3
  digits : ∀ c ∈ front ++ rest.flatten, c.isDigit = true
  zero : front.head? = some '0' → front = ['0'] ∧ rest = []

variable {ds front rest : List Char}

theorem length_of_mem_triples (ds : List Char) : ∀ g ∈ triples ds, g.length = 3 := by
  induction ds using triples.induct with
  | case1 a b c r ih =>
    intro g hg
    cases hg with
    | head => rfl
    | tail _ hg => exact ih g hg
  | case2 ds hshort =>
    intro g hg
    rw [triples.eq_def] at hg
    split at hg
    · exact absurd rfl (hshort _ _ _ _)
    · cases hg

theorem flatten_triples (h : ds.length % 3 = 0) : (triples ds).flatten = ds := by
  induction ds using triples.induct with
  | case1 a b c r ih =>
    have hr : r.length % 3 = 0 := by
      simp only [List.length_cons] at h
      omega
    rw [triples, List.flatten_cons, ih hr]
    rfl
  | case2 ds hshort =>
    match ds, h with
    | [], _ => rfl
    | a :: b :: c :: r, _ => exact absurd rfl (hshort a b c r)

theorem groupThousands_of_short (h : ds.length ≤ 3) : groupThousands ds = ds := by
  match ds, h with
  | [], _ => rfl
  | [a], _ => rfl
  | [a, b], _ => rfl
  | [a, b, c], _ => rfl

/-- Digits in front of a multiple of three others are set apart by one comma. -/
theorem groupThousands_append (hfront : front ≠ []) (hshort : front.length ≤ 3)
    (hrest : rest ≠ []) (hlen : rest.length % 3 = 0) :
    groupThousands (front ++ rest) = front ++ ',' :: groupThousands rest := by
  have hnone : ∀ (c : Char) {s : List Char}, s.length % 3 ≠ 0 →
      groupThousands (c :: s) = c :: groupThousands s := by
    intro c s hs
    rw [groupThousands, if_neg (by simp [hs])]
  have hcomma : ∀ c, groupThousands (c :: rest) = c :: ',' :: groupThousands rest := by
    intro c
    rw [groupThousands, if_pos (by simp [hlen, hrest])]
  match front, hfront, hshort with
  | [a], _, _ => exact hcomma a
  | [a, b], _, _ =>
    show groupThousands (a :: b :: rest) = _
    rw [hnone a (by simp only [List.length_cons]; omega), hcomma b]
    rfl
  | [a, b, c], _, _ =>
    show groupThousands (a :: b :: c :: rest) = _
    rw [hnone a (by simp only [List.length_cons]; omega),
      hnone b (by simp only [List.length_cons]; omega), hcomma c]
    rfl

theorem comma_groupThousands (hne : ds ≠ []) (h : ds.length % 3 = 0) :
    ',' :: groupThousands ds = (triples ds).flatMap (',' :: ·) := by
  induction ds using triples.induct with
  | case1 a b c r ih =>
    have hr : r.length % 3 = 0 := by
      simp only [List.length_cons] at h
      omega
    cases r with
    | nil => rfl
    | cons d r =>
      have hsplit : groupThousands ([a, b, c] ++ d :: r)
          = [a, b, c] ++ ',' :: groupThousands (d :: r) :=
        groupThousands_append (List.cons_ne_nil _ _) (Nat.le_refl 3) (List.cons_ne_nil _ _) hr
      rw [triples, List.flatMap_cons, ← ih (List.cons_ne_nil _ _) hr]
      exact congrArg (',' :: ·) hsplit
  | case2 ds hshort =>
    match ds, hne, h with
    | a :: b :: c :: r, _, _ => exact absurd rfl (hshort a b c r)

/-- How digits are written: one to three of them, then groups of three. -/
theorem exists_groups (hne : ds ≠ []) :
    ∃ (front : List Char) (groups : List (List Char)), front ≠ [] ∧ front.length ≤ 3 ∧
      (∀ g ∈ groups, g.length = 3) ∧ front ++ groups.flatten = ds ∧
      groupThousands ds = front ++ groups.flatMap (',' :: ·) := by
  have hpos : 0 < ds.length := List.length_pos_iff.mpr hne
  -- What stands in front makes the number of the other digits a multiple of three.
  obtain ⟨k, hk⟩ : ∃ k, k = (ds.length - 1) % 3 + 1 := ⟨_, rfl⟩
  have hfront : (ds.take k).length = k := by
    rw [List.length_take]
    omega
  have hrest : (ds.drop k).length % 3 = 0 := by
    rw [List.length_drop]
    omega
  have hcut : ds.take k ++ ds.drop k = ds := List.take_append_drop k ds
  refine ⟨ds.take k, triples (ds.drop k), List.ne_nil_of_length_pos (by omega), by omega,
    length_of_mem_triples _, by rw [flatten_triples hrest, hcut], ?_⟩
  by_cases hdrop : ds.drop k = []
  · rw [hdrop, List.append_nil] at hcut
    rw [hdrop, hcut, groupThousands_of_short (by rw [← hcut]; omega)]
    exact (List.append_nil ds).symm
  · rw [← comma_groupThousands hdrop hrest,
      ← groupThousands_append (List.ne_nil_of_length_pos (by omega)) (by omega) hdrop hrest, hcut]

theorem filter_groupThousands (h : ',' ∉ ds) : (groupThousands ds).filter (· ≠ ',') = ds := by
  induction ds with
  | nil => rfl
  | cons c r ih =>
    have hc : decide (c ≠ ',') = true := decide_eq_true fun heq => h (heq ▸ List.mem_cons_self)
    have hr := ih fun hmem => h (List.mem_cons_of_mem c hmem)
    rw [groupThousands]
    split
    · rw [List.filter_cons, if_pos hc, List.filter_cons, if_neg (by decide), hr]
    · rw [List.filter_cons, if_pos hc, hr]

-- ============================================================== integers

/-- The digits of a number begin with a zero only if it is zero. -/
theorem head?_decimalDigits_ne {n : Nat} (h : 0 < n) : (decimalDigits n).head? ≠ some '0' := by
  induction n using Nat.strongRecOn with
  | ind n ih =>
    rw [decimalDigits, Nat.toDigits_eq_if (by decide)]
    split
    · rename_i hlt
      have hdigit : ∀ d, d < 10 → 0 < d → Nat.digitChar d ≠ '0' := by decide
      intro heq
      exact hdigit n hlt h (Option.some.inj heq)
    · rw [List.head?_append_of_ne_nil _ Nat.toDigits_ne_nil]
      exact ih (n / 10) (by omega) (by omega)

/-- The sign of an integer, which a positive one has not. -/
def sign (n : Int) : List Char := if n < 0 then ['-'] else []

theorem sign_ofNat (m : Nat) : sign (.ofNat m) = [] :=
  if_neg (Int.not_lt.mpr (Int.natCast_nonneg m))

theorem sign_negSucc (m : Nat) : sign (.negSucc m) = ['-'] := if_pos (Int.negSucc_lt_zero m)

theorem decimal_eq (n : Int) : decimal n = sign n ++ decimalDigits n.natAbs := by
  cases n with
  | ofNat m =>
    rw [sign_ofNat]
    rfl
  | negSucc m =>
    rw [sign_negSucc]
    rfl

theorem toList_grouped (n : Int) :
    (grouped n).toList = sign n ++ groupThousands (decimalDigits n.natAbs) := by
  cases n with
  | ofNat m =>
    rw [sign_ofNat, grouped, String.toList_ofList]
    rfl
  | negSucc m =>
    rw [sign_negSucc, grouped, String.toList_ofList]
    rfl

theorem filter_grouped (n : Int) : (grouped n).toList.filter (· ≠ ',') = decimal n := by
  have hcomma : ',' ∉ decimalDigits n.natAbs := (isDigits_decimalDigits _).not_mem (by decide)
  have hsign : (sign n).filter (· ≠ ',') = sign n := by
    unfold sign
    split
    · rfl
    · rfl
  rw [toList_grouped, List.filter_append, hsign, filter_groupThousands hcomma, decimal_eq]

theorem groups_decimalDigits (n : Nat) : ∃ front rest, Groups front rest ∧
    groupThousands (decimalDigits n) = front ++ rest.flatMap (',' :: ·) := by
  have hdigits := isDigits_decimalDigits n
  obtain ⟨front, rest, hne, hshort, htriple, hcut, hwritten⟩ := exists_groups hdigits.nonempty
  refine ⟨front, rest, ⟨hne, hshort, htriple, hcut ▸ hdigits.digits, ?_⟩, hwritten⟩
  intro hzero
  have hhead : (decimalDigits n).head? = some '0' := by
    rw [← hcut, List.head?_append_of_ne_nil _ hne]
    exact hzero
  have hn : n = 0 := by
    apply Nat.eq_zero_of_not_pos
    intro hpos
    exact head?_decimalDigits_ne hpos hhead
  have hsingle : front ++ rest.flatten = ['0'] := by
    rw [hcut, hn]
    rfl
  obtain ⟨c, r, rfl⟩ := List.exists_cons_of_ne_nil hne
  obtain ⟨rfl, hnone⟩ := List.cons.inj hsingle
  obtain ⟨rfl, hflat⟩ := List.append_eq_nil_iff.mp hnone
  refine ⟨rfl, List.eq_nil_iff_forall_not_mem.mpr ?_⟩
  intro g hg
  have hlen := htriple g hg
  rw [List.flatten_eq_nil_iff.mp hflat g hg] at hlen
  cases hlen

/-- An integer is written as its sign, one to three digits, and groups of three
behind commas; without the commas it is in decimal form; and the reader of
counters, which takes them with commas, gives the integer back. -/
theorem thousands_are_exact {n : Int} (h : IsInt64 n) :
    (∃ front rest, Groups front rest ∧ (grouped n).toList
      = (if n < 0 then ['-'] else []) ++ front ++ rest.flatMap (',' :: ·)) ∧
    (grouped n).toList.filter (· ≠ ',') = (toString n).toList ∧
    PiHole.wholeNumber (some (.str (grouped n))) = n := by
  refine ⟨?_, ?_, ?_⟩
  · obtain ⟨front, rest, hgroups, hwritten⟩ := groups_decimalDigits n.natAbs
    refine ⟨front, rest, hgroups, ?_⟩
    rw [toList_grouped, hwritten, List.append_assoc]
    rfl
  · rw [filter_grouped, decimal_eq_toString]
  · have htrim : trim (decimal n) = decimal n := (Spaced.word (isInteger_decimal n).isWord).trim_eq
    rw [PiHole.wholeNumber, filter_grouped, htrim, int64?_decimal h, Option.getD_some]

theorem least_integer_in_thousands :
    IsInt64 minI64 ∧ grouped minI64 = "-9,223,372,036,854,775,808" ∧
      PiHole.wholeNumber (some (.str (grouped minI64))) = minI64 := by
  have hrange : IsInt64 minI64 := by decide
  exact ⟨hrange, by decide, (thousands_are_exact hrange).2.2⟩

end HostTelemetry.Text
