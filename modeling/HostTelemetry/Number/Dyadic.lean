/-
Finite floats as exact numbers: a sign, a natural and a power of two. What
is computed here (rounding to an integer, cutting to an integer) is
computed on that exact number, so each function has one rounding step and
the tie rule of that step is in its definition.

Three tie rules meet in the reports: figures are rounded to one or two
places with halves going away from zero, texts with a fixed number of
places take the exact value with halves going to the even neighbour, and
a fraction that becomes a counter is cut off.
-/

namespace HostTelemetry.Number

/-- The number `± m * 2 ^ q`. -/
structure Dyadic where
  /-- Whether the sign is minus; zero has both signs. -/
  negative : Bool
  m : Nat
  q : Int
deriving DecidableEq, Repr

/-- The bit that stands for the sign of a float, above eleven bits of the
exponent and 52 of the fraction. -/
def signBit : Nat := 0x8000000000000000

/-- The lowest bit of the exponent of a float. -/
def exponentBit : Nat := 0x10000000000000

/-- The exact value of a float, or nothing for NaN and the infinities. -/
def Dyadic.ofFloat? (x : Float) : Option Dyadic :=
  let bits := x.toBits.toNat
  let negative := signBit ≤ bits
  let e : Nat := bits % signBit / exponentBit
  let f : Nat := bits % exponentBit
  if e = 0x7FF then none
  else if e = 0 then some ⟨negative, f, -1074⟩
  else some ⟨negative, exponentBit + f, (e : Int) - 1075⟩

/-- Whether the float is neither NaN nor an infinity. -/
def isFinite (x : Float) : Bool := (Dyadic.ofFloat? x).isSome

/-- The float with the sign asked for. -/
def withSign (negative : Bool) (x : Float) : Float := if negative then -x else x

-- ============================================== quotients, rounded once

/-- Where a value halfway between two integers goes. -/
inductive Tie where
  | awayFromZero
  | toEven
deriving DecidableEq, Repr

/-- The integer nearest to `num / den`. -/
def roundDiv (tie : Tie) (num den : Nat) : Nat :=
  let q := num / den
  let twice := 2 * (num % den)
  if twice < den then q
  else if den < twice then q + 1
  else match tie with
    | .awayFromZero => q + 1
    | .toEven => if q % 2 = 0 then q else q + 1

-- ==================================================== floats to floats

/-- The nearest integer as a float, halves away from zero. NaN, the
infinities and the sign of zero are kept. -/
def roundHalfAway (x : Float) : Float :=
  match Dyadic.ofFloat? x with
  | none => x
  | some d =>
    if 0 ≤ d.q then x
    else withSign d.negative (Float.ofNat (roundDiv .awayFromZero d.m (Nat.pow 2 (-d.q).toNat)))

/-- The figure with at most one decimal place. -/
def round1 (x : Float) : Float := roundHalfAway (x * 10) / 10

/-- The figure with at most two decimal places. -/
def round2 (x : Float) : Float := roundHalfAway (x * 100) / 100

/-- The figure held between two bounds; NaN stays NaN. -/
def clamp (lo hi x : Float) : Float :=
  let x := if x < lo then lo else x
  if x > hi then hi else x

-- ================================================== floats to integers

/-- The integer part of a float, held between two bounds: NaN counts as
zero, and an infinity as the bound on its side. -/
def truncateWithin (min max : Int) (x : Float) : Int :=
  match Dyadic.ofFloat? x with
  | some d =>
    let n : Nat := if 0 ≤ d.q then d.m * Nat.pow 2 d.q.toNat else d.m / Nat.pow 2 (-d.q).toNat
    Max.max min (Min.min max (if d.negative then -(n : Int) else n))
  | none => if x > 0 then max else if x < 0 then min else 0

-- ======================================================= order of bits

/-- The place of a float in the order of all bit patterns, in which -0.0
stands before 0.0 and NaN at the ends. -/
def orderKey (x : Float) : Int :=
  let bits := x.toBits.toNat
  if bits < signBit then bits else (signBit : Int) - bits - 1

end HostTelemetry.Number
