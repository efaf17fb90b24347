/-
What the network interfaces of a host did between two readings, for the
physical and the virtual ones together. A virtual side without any
activity is not reported.

In JSON an error or drop counter of zero is left out, and so is the
virtual side that is not reported.
-/
import HostTelemetry.Json.Decode

namespace HostTelemetry.Network

open Json (orElse? required? asFloat? asUInt64? slots?)

/-- What one class of interfaces did between two readings. -/
structure Activity where
  download : Float := 0
  upload : Float := 0
  rxErrors : UInt64 := 0
  /-- Packets dropped on the way in. -/
  rxDrops : UInt64 := 0
  /-- Packets that could not be sent. -/
  txErrors : UInt64 := 0
  /-- Packets dropped on the way out. -/
  txDrops : UInt64 := 0
deriving Inhabited

/-- Whether nothing was transferred and nothing went wrong. -/
def Activity.isIdle (a : Activity) : Bool :=
  a.download ≤ 0 && a.upload ≤ 0 && a.rxErrors == 0 && a.rxDrops == 0 &&
    a.txErrors == 0 && a.txDrops == 0

/-- The activity of both classes of interfaces. -/
structure Report where
  physical : Activity := {}
  /-- The virtual interfaces, if their side is reported. -/
  virtualSide : Option Activity := none
deriving Inhabited

/-- The report of two classes; an idle virtual side is left out. -/
def Report.ofSides (physical virtualSide : Activity) : Report where
  physical := physical
  virtualSide := if virtualSide.isIdle then none else some virtualSide

-- ================================================================= JSON

/-- The activity in JSON. -/
def Activity.toJson (a : Activity) : Json :=
  .obj <|
    [("downloadBytesPerSec", .ofFloat a.download), ("uploadBytesPerSec", .ofFloat a.upload)]
      ++ Json.optionally 0 "rxErrors" .ofUInt64 a.rxErrors
      ++ Json.optionally 0 "rxDrops" .ofUInt64 a.rxDrops
      ++ Json.optionally 0 "txErrors" .ofUInt64 a.txErrors
      ++ Json.optionally 0 "txDrops" .ofUInt64 a.txDrops

/-- Reads an activity. -/
def Activity.ofJson? (j : Json) : Option Activity := do
  match ← slots? ["downloadBytesPerSec", "uploadBytesPerSec", "rxErrors", "rxDrops",
      "txErrors", "txDrops"] j with
  | [down, up, rxErrors, rxDrops, txErrors, txDrops] =>
    return {
      download := ← required? asFloat? down
      upload := ← required? asFloat? up
      rxErrors := ← orElse? 0 asUInt64? rxErrors
      rxDrops := ← orElse? 0 asUInt64? rxDrops
      txErrors := ← orElse? 0 asUInt64? txErrors
      txDrops := ← orElse? 0 asUInt64? txDrops }
  | _ => none

/-- The report in JSON. -/
def Report.toJson (r : Report) : Json :=
  .obj <| ("physical", r.physical.toJson) ::
    (r.virtualSide.map fun v => ("virtual", v.toJson)).toList

/-- Reads a report. -/
def Report.ofJson? (j : Json) : Option Report := do
  match ← slots? ["physical", "virtual"] j with
  | [physical, virtualSide] =>
    return {
      physical := ← required? Activity.ofJson? physical
      virtualSide := ← orElse? none (Json.asOption? Activity.ofJson?) virtualSide }
  | _ => none

end HostTelemetry.Network
