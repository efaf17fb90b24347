/-
What one process uses of a host: its share of all cores, smoothed, and its
resident memory. In JSON an empty command line or user is left out.
-/
import HostTelemetry.Json.Decode

namespace HostTelemetry.Proc

open Json (orElse? required? asFloat? asString? asInt32? slots?)

/-- The resources that a process uses. -/
structure Usage where
  pid : Int32
  name : String
  /-- Its share of all cores, from 0 to 100. -/
  cpuPercent : Float
  /-- Its resident memory, in units of 2 ^ 20 bytes. -/
  memoryMB : Float
  /-- Its share of the memory of the host, from 0 to 100. -/
  memoryPercent : Float
  /-- Its command line, if known. -/
  command : String := ""
  /-- The user that runs it, if known. -/
  user : String := ""
deriving Inhabited

/-- What a unit of memory counts against a percent of processor time. -/
def memoryWeight : Float := 0.1

/-- How heavy the process is: its processor share and its memory, weighed. -/
def Usage.score (u : Usage) : Float := u.cpuPercent + u.memoryMB * memoryWeight

-- ================================================================= JSON

/-- The usage in JSON. -/
def Usage.toJson (u : Usage) : Json :=
  .obj <|
    [("pid", .int u.pid.toInt), ("name", .str u.name), ("cpuPercent", .ofFloat u.cpuPercent),
      ("memoryMB", .ofFloat u.memoryMB), ("memoryPercent", .ofFloat u.memoryPercent)]
      ++ Json.optionally "" "command" .str u.command
      ++ Json.optionally "" "user" .str u.user

/-- Reads a usage. -/
def Usage.ofJson? (j : Json) : Option Usage := do
  match ← slots? ["pid", "name", "cpuPercent", "memoryMB", "memoryPercent", "command",
      "user"] j with
  | [pid, name, cpuPercent, memoryMB, memoryPercent, command, user] =>
    return {
      pid := ← required? asInt32? pid
      name := ← required? asString? name
      cpuPercent := ← required? asFloat? cpuPercent
      memoryMB := ← required? asFloat? memoryMB
      memoryPercent := ← required? asFloat? memoryPercent
      command := ← orElse? "" asString? command
      user := ← orElse? "" asString? user }
  | _ => none

end HostTelemetry.Proc
