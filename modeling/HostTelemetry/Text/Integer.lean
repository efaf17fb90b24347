/-
Integers as they stand in the texts of other programs: an optional sign,
then one or more ASCII digits, and nothing else. Leading zeros are
harmless; a value outside the range asked for is refused, never wrapped.

The second half writes them: `decimal` is the plain form and `grouped` the
one for people, with a comma before every third digit from the right.
-/

namespace HostTelemetry.Text

-- ============================================================== digits

/-- The value of a digit in a base up to sixteen. -/
def digit? (base : Nat) (c : Char) : Option Nat :=
  let n := c.toNat
  let d? :=
    if 0x30 ≤ n ∧ n ≤ 0x39 then some (n - 0x30)
    else if 0x61 ≤ n ∧ n ≤ 0x66 then some (n - 0x61 + 10)
    else if 0x41 ≤ n ∧ n ≤ 0x46 then some (n - 0x41 + 10)
    else none
  d?.filter (· < base)

/-- The value of a text of digits that continues the number `acc`. -/
def digitsValue? (base : Nat) (acc : Nat) : List Char → Option Nat
  | [] => some acc
  | c :: r => (digit? base c).bind fun d => digitsValue? base (acc * base + d) r

/-- The value of a text of at least one digit. -/
def digits? (base : Nat) : List Char → Option Nat
  | [] => none
  | s => digitsValue? base 0 s

-- ============================================================= reading

/-- A number from 0 to `max` in the given base, with an optional plus sign. -/
def naturalIn? (base max : Nat) (s : List Char) : Option Nat :=
  let body := match s with
    | '+' :: r => r
    | _ => s
  (digits? base body).filter (· ≤ max)

/-- A decimal number from 0 to `max`. -/
def natural? (max : Nat) (s : List Char) : Option Nat := naturalIn? 10 max s

/-- A number from `min` to `max`, with an optional sign. -/
def integer? (min max : Int) (s : List Char) : Option Int :=
  let value := match s with
    | '-' :: r => (digits? 10 r).map fun n => -(n : Int)
    | '+' :: r => (digits? 10 r).map Int.ofNat
    | _ => (digits? 10 s).map Int.ofNat
  value.filter fun n => min ≤ n && n ≤ max

/-- The greatest 16-bit number. -/
abbrev maxU16 : Nat := 0xFFFF

/-- The greatest 64-bit number. -/
abbrev maxU64 : Nat := 0xFFFFFFFFFFFFFFFF

/-- The least and the greatest signed 32-bit number. -/
abbrev minI32 : Int := -0x80000000
@[inherit_doc minI32] abbrev maxI32 : Int := 0x7FFFFFFF

/-- The least and the greatest signed 64-bit number. -/
abbrev minI64 : Int := -0x8000000000000000
@[inherit_doc minI64] abbrev maxI64 : Int := 0x7FFFFFFFFFFFFFFF

/-- A 64-bit number without a sign. -/
def uint64? (s : List Char) : Option UInt64 := (natural? maxU64 s).map UInt64.ofNat

/-- A signed 64-bit number. -/
def int64? (s : List Char) : Option Int := integer? minI64 maxI64 s

-- ============================================================= writing

/-- The decimal digits of a number. -/
def decimalDigits (n : Nat) : List Char := Nat.toDigits 10 n

/-- The decimal form of an integer. -/
def decimal : Int → List Char
  | .ofNat n => decimalDigits n
  | .negSucc n => '-' :: decimalDigits (n + 1)

/-- Digits with a comma before every group of three that is counted from
the right and has a digit in front of it. -/
def groupThousands : List Char → List Char
  | [] => []
  | c :: r =>
    if r.length % 3 = 0 && !r.isEmpty then c :: ',' :: groupThousands r
    else c :: groupThousands r

/-- The decimal form of an integer with its digits in groups of three. -/
def grouped : Int → String
  | .ofNat n => String.ofList (groupThousands (decimalDigits n))
  | .negSucc n => String.ofList ('-' :: groupThousands (decimalDigits (n + 1)))

end HostTelemetry.Text
