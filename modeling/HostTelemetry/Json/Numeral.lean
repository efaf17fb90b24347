/-
What a JSON numeral stands for. Without point and exponent it is an
integer as long as it fits 64 bits, and otherwise a float.

The float is reached in two steps, each of which rounds: the leading
digits that fit an unsigned word of 64 bits become a float, the digits
after them are dropped, and that float is multiplied or divided by a power
of ten. So a numeral of more than fifteen digits may come out as the
neighbour of the float nearest to it.
-/
import HostTelemetry.Json.Basic
import HostTelemetry.Text.Integer

namespace HostTelemetry.Json

open Text (digit? maxU64 maxI64)

-- ===================================================== the two roundings

/-- The float nearest to a power of ten below the limit of floats. -/
def powerOfTen (e : Nat) : Float := Float.ofScientific 1 false e

/-- The greatest exponent of a power of ten that is a float. -/
def maxPower : Nat := 308

/-- The significand times a power of ten; nothing if the product is beyond
the floats. An exponent below the powers of ten is reached in steps. -/
def scaled? (significand : Nat) (e : Int) : Option Float :=
  let f := Float.ofNat significand
  if 0 ≤ e then
    if e ≤ maxPower then
      let x := f * powerOfTen e.toNat
      if x == 1 / 0 then none else some x
    else if significand = 0 then some 0 else none
  else some (shrink f e.natAbs)
where
  /-- Divides by ten to the power of `e`; three steps reach zero from any
  significand. -/
  shrink (f : Float) (e : Nat) : Float :=
    if e ≤ maxPower then f / powerOfTen e
    else
      let f := f / powerOfTen maxPower
      let e := e - maxPower
      if e ≤ maxPower then f / powerOfTen e else 0

/-- Seventeen digits are rounded before they are divided. -/
example : (scaled? 15200000000000001 (-15)).map Float.toBits = some (15.2 : Float).toBits := by
  decide +kernel

-- =========================================================== significand

/-- The leading digits of a numeral. -/
structure Significand where
  /-- The number that the digits taken so far make, in 64 bits. -/
  value : Nat := 0
  /-- The exponent that the digits taken and dropped so far leave. -/
  exponent : Int := 0
  /-- Whether a digit did not fit any more. -/
  full : Bool := false

/-- Takes the next digit in front of the point. After the first digit that
does not fit, each only counts. -/
def Significand.whole (s : Significand) (d : Nat) : Significand :=
  if s.full || maxU64 < s.value * 10 + d then
    { s with full := true, exponent := s.exponent + 1 }
  else { s with value := s.value * 10 + d }

/-- Takes the next digit behind the point. After the first digit that does
not fit, all are dropped. -/
def Significand.fraction (s : Significand) (d : Nat) : Significand :=
  if s.full || maxU64 < s.value * 10 + d then { s with full := true }
  else { s with value := s.value * 10 + d, exponent := s.exponent - 1 }

/-- Takes digits while there are some. -/
def takeDigits (take : Significand → Nat → Significand) (s : Significand) :
    List Char → Significand × List Char
  | [] => (s, [])
  | c :: r => match digit? 10 c with
    | some d => takeDigits take (take s d) r
    | none => (s, c :: r)

-- =============================================================== reading

/-- The greatest exponent that is still read as a number. -/
def maxExponent : Nat := 0x7FFFFFFF

/-- The value of a numeral without its sign, whose exponent part (behind
the letter) is `tail`. -/
def withExponent? (s : Significand) (tail : List Char) : Option (Option Float) :=
  let (negative, digits) := match tail with
    | '-' :: r => (true, r)
    | '+' :: r => (false, r)
    | r => (false, r)
  match Text.digits? 10 digits with
  | none => none
  | some n =>
    if maxExponent < n then
      some (if s.value ≠ 0 && !negative then none else some 0)
    else some (scaled? s.value (if negative then s.exponent - n else s.exponent + n))

/-- The digits in front of the point: one, or several without a zero in
front. -/
def wholePart? (s : List Char) : Option (Significand × List Char) :=
  match s with
  | '0' :: r => match r with
    | c :: _ => if c.isDigit then none else some ({}, r)
    | [] => some ({}, [])
  | c :: _ => if c.isDigit then some (takeDigits .whole {} s) else none
  | [] => none

/-- The value of an unsigned numeral that has a point or an exponent;
`none` if it is no numeral, `some none` if it is beyond the floats. -/
def fractional? (s : Significand) : List Char → Option (Option Float)
  | '.' :: r =>
    let (t, rest) := takeDigits .fraction { s with full := false } r
    if rest.length = r.length then none
    else match rest with
      | [] => some (scaled? t.value t.exponent)
      | 'e' :: tail | 'E' :: tail => withExponent? t tail
      | _ => none
  | 'e' :: tail | 'E' :: tail => withExponent? s tail
  | _ => none

/-- The value of a numeral: `none` if the text is no numeral, and
`unreadable` if it is one beyond the floats. -/
def ofNumeral? (s : List Char) : Option Json := do
  let (negative, body) := match s with
    | '-' :: r => (true, r)
    | r => (false, r)
  let sign (x : Float) : Float := if negative then -x else x
  let (w, rest) ← wholePart? body
  match rest with
  | [] =>
    if w.full then
      return ((scaled? w.value w.exponent).map fun x => float (sign x)).getD unreadable
    else if !negative then return int w.value
    else if w.value = 0 || maxI64 + 1 < w.value then
      return float (sign (Float.ofNat w.value))
    else return int (-w.value)
  | _ =>
    let x? ← fractional? w rest
    return (x?.map fun x => float (sign x)).getD unreadable

end HostTelemetry.Json
