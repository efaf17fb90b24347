/-
JSON text without blanks. A string is written with the two-letter escapes
where there is one, with four hexadecimal digits for the other control
characters, and as it is otherwise.

Floats have no one form in JSON, so the writer leaves the choice to its
caller: it is given the text of a float.
-/
import HostTelemetry.Json.Basic
import HostTelemetry.Text.Integer

namespace HostTelemetry.Json

/-- The text of a character inside a string. -/
def escapeChar (c : Char) : String :=
  match c with
  | '"' => "\\\""
  | '\\' => "\\\\"
  | '\n' => "\\n"
  | '\r' => "\\r"
  | '\t' => "\\t"
  | '\x08' => "\\b"
  | '\x0c' => "\\f"
  | c =>
    if c.toNat < 0x20 then
      let ds := Nat.toDigits 16 c.toNat
      "\\u" ++ String.ofList (List.replicate (4 - ds.length) '0' ++ ds)
    else c.toString

/-- A string between quotes. -/
def quote (s : String) : String :=
  s.foldl (fun out c => out ++ escapeChar c) "\"" ++ "\""

mutual

/-- Appends the text of a value. -/
def write (float : Float → String) (out : String) : Json → String
  | null => out ++ "null"
  | bool b => out ++ (if b then "true" else "false")
  | int n => out ++ String.ofList (Text.decimal n)
  | .float x => out ++ float x
  | str s => out ++ quote s
  | arr [] => out ++ "[]"
  | arr (j :: r) => writeItems float (write float (out ++ "[") j) r ++ "]"
  | obj [] => out ++ "\x7b\x7d"
  | obj ((name, j) :: r) =>
    writeFields float (write float (out ++ "\x7b" ++ quote name ++ ":") j) r ++ "\x7d"
  | unreadable => out ++ "null"

/-- Appends further items, each behind a comma. -/
def writeItems (float : Float → String) (out : String) : List Json → String
  | [] => out
  | j :: r => writeItems float (write float (out ++ ",") j) r

/-- Appends further fields, each behind a comma. -/
def writeFields (float : Float → String) (out : String) : List (String × Json) → String
  | [] => out
  | (name, j) :: r =>
    writeFields float (write float (out ++ "," ++ quote name ++ ":") j) r

end

/-- The text of a value. -/
def render (float : Float → String) (j : Json) : String := write float "" j

end HostTelemetry.Json
