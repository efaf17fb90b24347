/-
What a Pi-hole says of itself, and the reports made of it. Its interface
has two generations: v5 gives a flat summary whose numbers may be texts
with commas, v6 gives a tree. Where a v6 wants a login, the state of the
blocking may still be public.
-/
import HostTelemetry.Number.Decimal
import HostTelemetry.Service.Report
import HostTelemetry.Text.Blank

namespace HostTelemetry.PiHole

open Service (Figure Report Status)

-- ============================================================== numbers

/-- A number as an integer: a fraction is cut off, and what is out of range
becomes the nearest integer in range. A text may have commas, and what is
no number counts as zero. -/
def wholeNumber : Option Json → Int
  | some (.int n) =>
    if n ≤ Text.maxI64 then n
    else Number.truncateWithin Text.minI64 Text.maxI64 (Float.ofInt n)
  | some (.float x) => Number.truncateWithin Text.minI64 Text.maxI64 x
  | some (.str s) => (Text.int64? (Text.trim (s.toList.filter (· ≠ ',')))).getD 0
  | _ => 0

/-- A number as a float; what is no number counts as zero. -/
def number : Option Json → Float
  | some (.int n) => Float.ofInt n
  | some (.float x) => x
  | some (.str s) => (Number.float? (Text.trim s.toList)).getD 0
  | _ => 0

/-- A share in percent with one decimal place. -/
def percent (x : Float) : String := Number.fixed 1 x ++ "%"

/-- The four figures of both generations. -/
def figures (queries : Int) (blockedPercent : Float) (onBlocklist clients : Int) :
    List Figure :=
  [⟨"Queries Today", Text.grouped queries, .number⟩,
    ⟨"Blocked", percent blockedPercent, .percent⟩,
    ⟨"On Blocklist", Text.grouped onBlocklist, .number⟩,
    ⟨"Clients", Text.grouped clients, .number⟩]

-- ========================================================== generation 5

/-- The name of the fifth generation. -/
def v5 : String := "v5"

/-- The report of a v5 summary. It is one if it counts the queries of the
day. A summary without a status is of a server that always blocks. -/
def v5Report? (j : Json) : Option Report := do
  let queriesToday ← j.field? "dns_queries_today"
  let queries := wholeNumber queriesToday
  let share := number (j.field? "ads_percentage_today")
  let blocklist := wholeNumber (j.field? "domains_being_blocked")
  let clients := wholeNumber (j.field? "unique_clients")
  let status := ((j.field? "status").bind Json.str?).getD ""
  let details : Json := .obj [
    ("queriesToday", .int queries),
    ("adsBlockedToday", .int (wholeNumber (j.field? "ads_blocked_today"))),
    ("adsPercentToday", .ofFloat (Number.round1 share)),
    ("domainsBlocked", .int blocklist),
    ("uniqueClients", .int clients),
    ("queriesForwarded", .int (wholeNumber (j.field? "queries_forwarded"))),
    ("queriesCached", .int (wholeNumber (j.field? "queries_cached"))),
    ("uniqueDomains", .int (wholeNumber (j.field? "unique_domains"))),
    ("status", .str status), ("version", .str v5)]
  let health : Status := if status = "" ∨ status = "enabled" then .running else .degraded
  return (Report.ofDetails health (figures queries share blocklist clients) details).withVersion v5

-- ========================================================== generation 6

/-- The name of the sixth generation. -/
def v6 : String := "v6"

/-- The share of queries that were blocked, in percent. -/
def blockedShare (blocked total : Int) : Float :=
  if 0 < total then Float.ofInt blocked / Float.ofInt total * 100 else 0

/-- The report of a v6 summary. It is one if it has an object of queries. -/
def v6Report? (j : Json) : Option Report := do
  let queries ← (j.field? "queries").filter Json.isObj
  let total := wholeNumber (queries.field? "total")
  let blocked := wholeNumber (queries.field? "blocked")
  let share := blockedShare blocked total
  let blocklist := wholeNumber (j.at? ["gravity", "domains_being_blocked"])
  let clients := wholeNumber (j.at? ["clients", "active"])
  let details : Json := .obj [
    ("queriesToday", .int total), ("adsBlockedToday", .int blocked),
    ("adsPercentToday", .ofFloat (Number.round1 share)), ("domainsBlocked", .int blocklist),
    ("activeClients", .int clients), ("status", .str "running"), ("version", .str v6)]
  return (Report.ofDetails .running (figures total share blocklist clients) details).withVersion v6

/-- The report of the public state of the blocking. -/
def blockingReport (blocking : String) : Report :=
  let off := blocking = "disabled"
  (Report.ofDetails (if off then .degraded else .running)
    [⟨"DNS Blocking", blocking, .status⟩]
    (.obj [("blocking", .str blocking), ("status", .str (if off then "stopped" else "running")),
      ("version", .str v6)])).withVersion v6

/-- The report of a server that wants a login which nobody has set, with
the state of the blocking if it is public. -/
def authRequiredReport (blocking : Option String) : Report :=
  (Report.ofDetails .running
    ([⟨"Version", "v6", .text⟩, ⟨"Status", "Running", .status⟩]
      ++ (blocking.map fun b => ⟨"DNS Blocking", b, .status⟩).toList)
    (.obj ([("version", .str v6), ("authRequired", .bool true)]
      ++ (blocking.map fun b => ("blocking", Json.str b)).toList))).withVersion v6

/-- The state of the blocking that an answer gives. -/
def blockingState? (j : Json) : Option String := (j.field? "blocking").bind Json.str?

end HostTelemetry.PiHole
