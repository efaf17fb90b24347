/-
Plugins: each knows one kind of service, finds it in an environment, asks
it how it does, and may know actions to perform on it.
-/
import HostTelemetry.Discovery.Environment
import HostTelemetry.Http.Dialogue
import HostTelemetry.Service.Fault
import HostTelemetry.Service.Record
import HostTelemetry.Service.Report

namespace HostTelemetry.Service

open Discovery (Environment)
open Http (Dialogue)

/-- Who a plugin is. -/
structure Identity where
  /-- Its name for programs, in lower case and its own. -/
  id : String
  name : String
  /-- The name of its icon. -/
  icon : String
deriving DecidableEq, Repr, Inhabited

/-- The record of a service at an address, of which nothing else is known. -/
def Identity.recordAt (i : Identity) (url : String) : Record :=
  { pluginId := i.id, name := i.name, icon := i.icon, baseUrl := url }

/-- Parameters of an action, by name. -/
abbrev Params := List (String × Json)

/-- The action of a plugin that has none. -/
def noAction (_ : Record) (action : String) (_ : Params) : Dialogue (Except Fault String) :=
  .done (.error (.unsupportedAction action))

/-- A plugin. -/
structure Plugin where
  identity : Identity
  detect : Environment → Dialogue (Option Record)
  /-- Asks the service how it does. -/
  collect : Record → Dialogue (Except Fault Report)
  act : Record → String → Params → Dialogue (Except Fault String) := noAction
deriving Inhabited

end HostTelemetry.Service
