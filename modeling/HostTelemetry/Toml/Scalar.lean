/-
The values of TOML that need no quotes: truth values, integers in four
bases, floats, and moments. An underscore may stand between two digits
and nowhere else; a decimal number has no leading zeros.

Of a moment only its form matters: dates of the calendar, times of the
day with or without seconds, and an offset behind a date with a time.
-/
import HostTelemetry.Number.Decimal
import HostTelemetry.Text.Blank
import HostTelemetry.Toml.Value

namespace HostTelemetry.Toml

open Text (digit? digits?)

-- =============================================================== digits

/-- The text without the underscores between its digits; all its other
characters must be digits of the base. -/
def plainDigits? (base : Nat) : List Char → Option (List Char)
  | [] => none
  | [c] => (digit? base c).map fun _ => [c]
  | c :: '_' :: r => (digit? base c).bind fun _ => (plainDigits? base r).map (c :: ·)
  | c :: r => (digit? base c).bind fun _ => (plainDigits? base r).map (c :: ·)

/-- Digits of a decimal number, of which the first is zero only if it is
the only one. -/
def decimalDigits? (s : List Char) : Option (List Char) :=
  (plainDigits? 10 s).filter fun ds => ds.head? ≠ some '0' || ds.length = 1

/-- The text behind a sign, and whether the sign is a minus. -/
def unsigned (s : List Char) : Bool × List Char :=
  match s with
  | '-' :: r => (true, r)
  | '+' :: r => (false, r)
  | _ => (false, s)

-- ============================================================= integers

/-- Reads an integer. -/
def int? (s : List Char) : Option Int :=
  match s with
  | '0' :: 'x' :: r => ((plainDigits? 16 r).bind (digits? 16)).map Int.ofNat
  | '0' :: 'o' :: r => ((plainDigits? 8 r).bind (digits? 8)).map Int.ofNat
  | '0' :: 'b' :: r => ((plainDigits? 2 r).bind (digits? 2)).map Int.ofNat
  | _ =>
    let (negative, r) := unsigned s
    ((decimalDigits? r).bind (digits? 10)).map fun n => if negative then -(n : Int) else n

-- =============================================================== floats

/-- Reads the exponent of a float: a sign that may be missing, and digits. -/
def exponent? (s : List Char) : Option Int :=
  let (negative, r) := unsigned s
  ((plainDigits? 10 r).bind (digits? 10)).map fun n => if negative then -(n : Int) else n

/-- Reads a float without a sign: it has a fraction, an exponent or both.
One that is too large for a float is read as nothing. -/
def magnitude? (s : List Char) : Option (Option Float) :=
  if s = "inf".toList then some (some (1 / 0))
  else if s = "nan".toList then some (some (0 / 0))
  else do
    let inMantissa := fun c => c ≠ 'e' && c ≠ 'E'
    let mantissa := s.takeWhile inMantissa
    let exp ← match s.dropWhile inMantissa with
      | [] => if mantissa.contains '.' then some 0 else none
      | _ :: r => exponent? r
    let (whole, frac) ← match Text.splitFirst? '.' mantissa with
      | none => (decimalDigits? mantissa).map fun ds => (ds, [])
      | some (whole, frac) =>
        (decimalDigits? whole).bind fun ds => (plainDigits? 10 frac).map fun fs => (ds, fs)
    let m ← digits? 10 (whole ++ frac)
    return (some (Number.ofDecimal m (exp - frac.length))).filter Number.isFinite

/-- Reads a float. -/
def float? (s : List Char) : Option Value :=
  let (negative, r) := unsigned s
  (magnitude? r).map fun
    | some x => .float (if negative then -x else x)
    | none => .beyond

-- ============================================================== moments

/-- A number of exactly so many decimal digits and the text behind it. -/
def digitRun? (count : Nat) (s : List Char) : Option (Nat × List Char) :=
  if (s.drop count).head?.any Char.isDigit || s.length < count then none
  else (digits? 10 (s.take count)).map fun n => (n, s.drop count)

/-- The text behind a character that must be there. -/
def behind? (c : Char) : List Char → Option (List Char)
  | d :: r => if c = d then some r else none
  | [] => none

/-- The number of days of a month. -/
def daysInMonth (year month : Nat) : Nat :=
  if month = 2 then
    if year % 4 = 0 ∧ (year % 100 ≠ 0 ∨ year % 400 = 0) then 29 else 28
  else if month ∈ [4, 6, 9, 11] then 30
  else 31

/-- The text behind a date. -/
def date? (s : List Char) : Option (List Char) := do
  let (year, s) ← digitRun? 4 s
  let (month, s) ← digitRun? 2 (← behind? '-' s)
  let (day, s) ← digitRun? 2 (← behind? '-' s)
  guard (1 ≤ month ∧ month ≤ 12 ∧ 1 ≤ day ∧ day ≤ daysInMonth year month)
  return s

/-- The text behind the fraction of a second, if there is one. -/
def fraction? : List Char → Option (List Char)
  | '.' :: r => if r.head?.any Char.isDigit then some (r.dropWhile Char.isDigit) else none
  | s => some s

/-- The text behind a time of the day. -/
def time? (s : List Char) : Option (List Char) := do
  let (hour, s) ← digitRun? 2 s
  let (minute, s) ← digitRun? 2 (← behind? ':' s)
  guard (hour ≤ 23 ∧ minute ≤ 59)
  match s with
  | ':' :: r =>
    let (second, s) ← digitRun? 2 r
    guard (second ≤ 60)
    fraction? s
  | _ => return s

/-- The text behind an offset, if there is one. -/
def offset? : List Char → Option (List Char)
  | [] => some []
  | c :: r =>
    if c = 'Z' || c = 'z' then some r
    else if c = '+' || c = '-' then do
      let (hour, s) ← digitRun? 2 r
      let (minute, s) ← digitRun? 2 (← behind? ':' s)
      guard (hour ≤ 23 ∧ minute ≤ 59)
      return s
    else none

/-- Whether the text is a moment. -/
def isMoment (s : List Char) : Bool :=
  let rest := match date? s with
    | some [] => some []
    | some (c :: r) =>
      if c = 'T' || c = 't' || c = ' ' then (time? r).bind offset? else none
    | none => time? s
  rest = some []

-- ============================================================ all of them

/-- Reads a value without quotes and brackets. -/
def scalar? (s : List Char) : Option Value :=
  if s = "true".toList then some (.bool true)
  else if s = "false".toList then some (.bool false)
  else match int? s with
    | some n => some (.int n)
    | none => match float? s with
      | some v => some v
      | none => if isMoment s then some .moment else none

end HostTelemetry.Toml
