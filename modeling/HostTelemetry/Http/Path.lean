/-
The path of an address as it reaches a server: its segments, with dots
resolved and with all that a path must not hold written in percent form.

Tabs and line ends are left out, and a query or a fragment ends the path. A
segment of one dot stands for nothing and one of two dots takes the segment
before it away; a dot may be given in percent form. What is in percent form
already stays as it is.
-/
import HostTelemetry.Text.Blank
import HostTelemetry.Text.Utf8

namespace HostTelemetry.Http

-- ============================================================== segments

/-- Whether a byte must not stand in a path. -/
def leavesPath (b : UInt8) : Bool :=
  b ≤ 0x20 || 0x7F ≤ b ||
    ['"', '#', '<', '>', '?', '\u0060', '{', '}'].any fun c => b.toNat == c.toNat

/-- A byte in percent form. -/
def percent (b : UInt8) : List Char :=
  ['%', Nat.digitChar (b.toNat / 16), Nat.digitChar (b.toNat % 16)].map Char.toUpper

/-- A segment without what must not stand in a path. -/
def encodeSegment (s : List Char) : String :=
  String.ofList (s.flatMap fun c =>
    let bytes := Text.encodeChar c
    if bytes.any leavesPath then bytes.flatMap percent else [c])

/-- The segment with dots for their percent forms. -/
def withDots : List Char → List Char
  | '%' :: '2' :: c :: r => if c = 'e' || c = 'E' then '.' :: withDots r else '%' :: '2' :: c :: r
  | '.' :: r => '.' :: withDots r
  | s => s

/-- Resolves dots; `done` holds the segments so far, the last one first. A
path that ends in dots ends in an empty segment. -/
def resolve (done : List (List Char)) : List (List Char) → List (List Char)
  | [] => done.reverse
  | s :: r =>
    let closing := if r.isEmpty then [[]] else []
    if withDots s = ['.', '.'] then resolve (closing ++ done.tail) r
    else if withDots s = ['.'] then resolve (closing ++ done) r
    else resolve (s :: done) r

-- ================================================================= paths

/-- The segments of a path that is written with slashes between them. -/
def segments (path : String) : List String :=
  let kept := path.toList.filter fun c => c ≠ '\t' && c ≠ '\n' && c ≠ '\r'
  let path := kept.takeWhile fun c => c ≠ '?' && c ≠ '#'
  (resolve [] (Text.splitBy (· = '/') path)).map encodeSegment

example : segments "a/../b c/%2E/d?e" = ["b%20c", "d"] := by decide +kernel

end HostTelemetry.Http
