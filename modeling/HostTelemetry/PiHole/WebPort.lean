/-
The port of the web interface, as the settings of an installation on the
host record it: the server's own file, or that of the lighttpd that serves
older ones.
-/
import HostTelemetry.Text.Blank
import HostTelemetry.Text.Utf8
import HostTelemetry.Toml.Data
import HostTelemetry.Toml.Reader

namespace HostTelemetry.PiHole

/-- A port that can be asked. -/
def port? (digits : List Char) : Option Nat :=
  (Text.natural? Text.maxU16 digits).filter (0 < ·)

/-- The port of the first address of a list such as `80o,443os,[::]:80o`:
the digits behind its last colon. -/
def firstPort? (addresses : List Char) : Option Nat :=
  let first := Text.trim (addresses.takeWhile (· ≠ ','))
  let port := match Text.splitLast? ':' first with
    | some (_, port) => port
    | none => first
  port? (port.takeWhile Char.isDigit)

/-- The web port in the settings of the server itself. -/
def webserverPort? (content : String) : Option Nat := do
  let settings ← (Toml.ofString? content).bind Toml.fieldsAsData?
  match ← Toml.Fields.get? settings "webserver" with
  | .table _ webserver =>
    match ← Toml.Fields.get? webserver "port" with
    | .int n => if 0 < n ∧ n ≤ Text.maxU16 then some n.toNat else none
    | .str s => firstPort? s.toList
    | _ => none
  | _ => none

/-- The port that one line of lighttpd's settings assigns. -/
def lighttpdLine? (line : List Char) : Option Nat := do
  let rest ← Text.dropStart? "server.port".toList (Text.trim line)
  let (_, value) ← Text.splitFirst? '=' rest
  port? (Text.trim value)

/-- The port in the settings of lighttpd: the first that a line gives. -/
def lighttpdPort? (content : String) : Option Nat :=
  (Text.lines content.toList).findSome? lighttpdLine?

/-- The settings that an installation may have; a file that is not there
or cannot be read has no content. -/
structure SettingsFiles where
  own : Option Bytes := none
  /-- The files of lighttpd, the more important ones first. -/
  lighttpd : List (Option Bytes) := []
deriving Inhabited

/-- The text of a file. -/
def text? (file : Option Bytes) : Option String := (file.bind Text.decode?).map String.ofList

/-- The port that the settings give. -/
def SettingsFiles.port? (f : SettingsFiles) : Option Nat :=
  ((text? f.own).bind webserverPort?).or
    (f.lighttpd.findSome? fun file => (text? file).bind lighttpdPort?)

end HostTelemetry.PiHole
