/-
Spans of time as text: a decimal number in the largest unit of which there
is at least one, without zeros at the end of the fraction. The units are
seconds and their thousandths, millionths and billionths.
-/
import HostTelemetry.Text.Integer

namespace HostTelemetry.Text

/-- The digits behind the point of `part / 10 ^ places`, with the point, and
nothing if there are none but zeros. -/
def fractionDigits (places part : Nat) : List Char :=
  let ds := decimalDigits part
  let ds := List.replicate (places - ds.length) '0' ++ ds
  let ds := (ds.reverse.dropWhile (· = '0')).reverse
  if part = 0 || ds.isEmpty then [] else '.' :: ds

/-- A span in a unit of `10 ^ places` billionths of a second. -/
def inUnit (places : Nat) (unit : String) (nanos : Nat) : String :=
  String.ofList (decimalDigits (nanos / Nat.pow 10 places)
    ++ fractionDigits places (nanos % Nat.pow 10 places)) ++ unit

/-- A span of so many billionths of a second. -/
def duration (nanos : Nat) : String :=
  if 1000000000 ≤ nanos then inUnit 9 "s" nanos
  else if 1000000 ≤ nanos then inUnit 6 "ms" nanos
  else if 1000 ≤ nanos then inUnit 3 "µs" nanos
  else inUnit 0 "ns" nanos

/-- A span of so many thousandths of a second. -/
def durationOfMillis (millis : Nat) : String := duration (millis * 1000000)

end HostTelemetry.Text
