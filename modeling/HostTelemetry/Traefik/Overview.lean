/-
The overview that a Traefik proxy gives of its routers, services and
middlewares, by protocol. What it leaves out is zero. The numbers have 64
bits with a sign, and so have their sums.
-/
import HostTelemetry.Service.Report

namespace HostTelemetry.Traefik

open Json (orElse? asInt64? slots?)
open Service (Figure Report)

/-- How many objects of a kind there are, and how many are not in order. -/
structure Count where
  total : Int64 := 0
  warnings : Int64 := 0
  errors : Int64 := 0
deriving DecidableEq, Repr, Inhabited

/-- The objects of one protocol. -/
structure Protocol where
  routers : Count := {}
  services : Count := {}
  middlewares : Count := {}
deriving DecidableEq, Repr, Inhabited

/-- The objects of all protocols. -/
structure Overview where
  http : Protocol := {}
  tcp : Protocol := {}
  udp : Protocol := {}
deriving DecidableEq, Repr, Inhabited

-- ============================================================== reading

/-- Reads a count. -/
def Count.ofJson? (j : Json) : Option Count := do
  match ← slots? ["total", "warnings", "errors"] j with
  | [total, warnings, errors] =>
    return {
      total := ← orElse? 0 asInt64? total
      warnings := ← orElse? 0 asInt64? warnings
      errors := ← orElse? 0 asInt64? errors }
  | _ => none

/-- Reads the objects of a protocol. -/
def Protocol.ofJson? (j : Json) : Option Protocol := do
  match ← slots? ["routers", "services", "middlewares"] j with
  | [routers, services, middlewares] =>
    return {
      routers := ← orElse? {} Count.ofJson? routers
      services := ← orElse? {} Count.ofJson? services
      middlewares := ← orElse? {} Count.ofJson? middlewares }
  | _ => none

/-- Reads an overview. -/
def Overview.ofJson? (j : Json) : Option Overview := do
  match ← slots? ["http", "tcp", "udp"] j with
  | [http, tcp, udp] =>
    return {
      http := ← orElse? {} Protocol.ofJson? http
      tcp := ← orElse? {} Protocol.ofJson? tcp
      udp := ← orElse? {} Protocol.ofJson? udp }
  | _ => none

-- ============================================================ reporting

/-- The report of a proxy with this overview and so many entry points. It
is degraded by errors of routers and services of HTTP. -/
def Overview.report (o : Overview) (entryPoints : Int64) : Report :=
  let routers := o.http.routers.total + o.tcp.routers.total + o.udp.routers.total
  let services := o.http.services.total + o.tcp.services.total + o.udp.services.total
  let faulty := o.http.routers.errors + o.http.services.errors
  .ofDetails (if 0 < faulty then .degraded else .running)
    [⟨"Routers", Text.grouped routers.toInt, .number⟩,
      ⟨"Services", Text.grouped services.toInt, .number⟩,
      ⟨"Entrypoints", Text.grouped entryPoints.toInt, .number⟩,
      ⟨"Middlewares", Text.grouped o.http.middlewares.total.toInt, .number⟩]
    (.obj [("httpRouters", .int o.http.routers.total.toInt),
      ("httpServices", .int o.http.services.total.toInt),
      ("httpMiddlewares", .int o.http.middlewares.total.toInt),
      ("tcpRouters", .int o.tcp.routers.total.toInt),
      ("tcpServices", .int o.tcp.services.total.toInt),
      ("udpRouters", .int o.udp.routers.total.toInt),
      ("udpServices", .int o.udp.services.total.toInt),
      ("entrypoints", .int entryPoints.toInt), ("totalRouters", .int routers.toInt),
      ("totalServices", .int services.toInt), ("warnings", .int faulty.toInt)])

end HostTelemetry.Traefik
