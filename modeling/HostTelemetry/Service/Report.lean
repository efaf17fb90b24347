/-
What a plugin reports of a service: how it does, a few figures for people,
and details for programs as free-form fields.
-/
import HostTelemetry.Json.Decode

namespace HostTelemetry.Service

open Json (required? asString? asName? slots?)

-- =============================================================== status

/-- How a service does. -/
inductive Status where
  | running
  /-- It answers and is not in order. -/
  | degraded
  /-- It could not be asked. -/
  | error
deriving DecidableEq, Repr, Inhabited

/-- The name of a status. -/
def Status.name : Status → String
  | .running => "running"
  | .degraded => "degraded"
  | .error => "error"

/-- The status with the given name. -/
def Status.ofName? : String → Option Status
  | "running" => some .running
  | "degraded" => some .degraded
  | "error" => some .error
  | _ => none

-- ============================================================== figures

/-- How the value of a figure is to be read. -/
inductive FigureKind where
  | number
  /-- A share in percent. -/
  | percent
  | status
  | text
deriving DecidableEq, Repr, Inhabited

/-- The name of a kind. -/
def FigureKind.name : FigureKind → String
  | .number => "number"
  | .percent => "percent"
  | .status => "status"
  | .text => "text"

/-- The kind with the given name. -/
def FigureKind.ofName? : String → Option FigureKind
  | "number" => some .number
  | "percent" => some .percent
  | "status" => some .status
  | "text" => some .text
  | _ => none

/-- A figure for people. -/
structure Figure where
  label : String
  /-- Its value, ready to be shown. -/
  value : String
  /-- How the value is to be read. -/
  kind : FigureKind
deriving DecidableEq, Repr, Inhabited

-- =============================================================== reports

/-- What a plugin reports of a service. -/
structure Report where
  /-- How it does. -/
  status : Status := .running
  summary : List Figure := []
  stats : List (String × Json) := []
  /-- The generation of its protocol, if the report tells it. -/
  version : Option String := none
deriving Inhabited

/-- A report with free-form details, which are fields only if they are an
object. -/
def Report.ofDetails (status : Status) (summary : List Figure) (details : Json) : Report where
  status := status
  summary := summary
  stats := match details.settled with
    | .obj fields => fields
    | _ => []

/-- The report with the generation of the protocol. -/
def Report.withVersion (r : Report) (version : String) : Report :=
  { r with version := some version }

-- ================================================================= JSON

/-- The status in JSON. -/
def Status.toJson (s : Status) : Json := .str s.name

/-- Reads a status. -/
def Status.ofJson? (j : Json) : Option Status := (asName? j).bind Status.ofName?

/-- The kind in JSON. -/
def FigureKind.toJson (k : FigureKind) : Json := .str k.name

/-- Reads a kind. -/
def FigureKind.ofJson? (j : Json) : Option FigureKind := (asName? j).bind FigureKind.ofName?

/-- The figure in JSON. -/
def Figure.toJson (f : Figure) : Json :=
  .obj [("label", .str f.label), ("value", .str f.value), ("type", f.kind.toJson)]

/-- Reads a figure. -/
def Figure.ofJson? (j : Json) : Option Figure := do
  match ← slots? ["label", "value", "type"] j with
  | [label, value, kind] =>
    return {
      label := ← required? asString? label
      value := ← required? asString? value
      kind := ← required? FigureKind.ofJson? kind }
  | _ => none

end HostTelemetry.Service
