/-
Floats as decimal text: with a fixed number of places, and read back from
the spellings that other programs use.

A text with fixed places rounds the exact value of the float once, halves
to the even neighbour, and keeps the sign of zero. A text that is read is
rounded once too, to the nearest float.
-/
import HostTelemetry.Number.Dyadic
import HostTelemetry.Text.Integer

namespace HostTelemetry.Number

open Text (decimalDigits digits?)

-- ============================================================= writing

/-- The digits of `n` with a point before the last `places` of them. -/
def withPoint (places n : Nat) : List Char :=
  let ds := decimalDigits n
  let ds := List.replicate (places + 1 - ds.length) '0' ++ ds
  if places = 0 then ds
  else ds.take (ds.length - places) ++ '.' :: ds.drop (ds.length - places)

/-- The magnitude of a dyadic number in units of the last of `places`
decimal places, halves to even. -/
def Dyadic.scaled (places : Nat) (d : Dyadic) : Nat :=
  if 0 ≤ d.q then d.m * Nat.pow 2 d.q.toNat * Nat.pow 10 places
  else roundDiv .toEven (d.m * Nat.pow 10 places) (Nat.pow 2 (-d.q).toNat)

/-- The float with a fixed number of decimal places. -/
def fixed (places : Nat) (x : Float) : String :=
  match Dyadic.ofFloat? x with
  | some d =>
    let body := withPoint places (d.scaled places)
    String.ofList (if d.negative then '-' :: body else body)
  | none => if x > 0 then "inf" else if x < 0 then "-inf" else "NaN"

-- ============================================================= reading

/-- The float nearest to `m * 10 ^ e`. Beyond the range of floats the
magnitude of the number alone decides, so a large exponent costs nothing. -/
def ofDecimal (m : Nat) (e : Int) : Float :=
  if m = 0 then 0
  else
    let places : Int := (decimalDigits m).length
    if e + places > 400 then Float.ofScientific 1 false 400
    else if e + places < -400 then 0
    else Float.ofScientific m (e < 0) e.natAbs

/-- Reads an exponent: a sign that may be missing, and digits. -/
def exponent? : List Char → Option Int
  | '-' :: r => (digits? 10 r).map fun n => -(n : Int)
  | '+' :: r => (digits? 10 r).map Int.ofNat
  | s => (digits? 10 s).map Int.ofNat

/-- Reads a number without a sign: digits with a point among or beside
them, then an exponent that may be missing; or a name of infinity or of
NaN in any case. -/
def magnitude? (s : List Char) : Option Float :=
  let small := s.map Char.toLower
  if small = "inf".toList || small = "infinity".toList then some (1 / 0)
  else if small = "nan".toList then some (0 / 0)
  else
    let whole := s.takeWhile Char.isDigit
    let rest := s.dropWhile Char.isDigit
    let (frac, rest) := match rest with
      | '.' :: r => (r.takeWhile Char.isDigit, r.dropWhile Char.isDigit)
      | r => ([], r)
    match digits? 10 (whole ++ frac), rest with
    | none, _ => none
    | some m, [] => some (ofDecimal m (-(frac.length : Int)))
    | some m, c :: r =>
      if c = 'e' || c = 'E' then
        (exponent? r).map fun e => ofDecimal m (e - frac.length)
      else none

/-- Reads a float with a sign that may be missing. -/
def float? : List Char → Option Float
  | '-' :: r => (magnitude? r).map fun x => -x
  | '+' :: r => magnitude? r
  | s => magnitude? s

end HostTelemetry.Number
