/-
The status page of an nginx server:

  Active connections: 291
  server accepts handled requests
   16630948 16630946 31070465
  Reading: 6 Writing: 179 Waiting: 106

Lines may come in any order and with other lines between them. A page is
one of status if its last line of active connections has a number.
-/
import HostTelemetry.Service.Report
import HostTelemetry.Text.Blank

namespace HostTelemetry.Nginx

open Service (Figure Report)

/-- The counters of a server. -/
structure StubStatus where
  active : Int := 0
  /-- The connections accepted so far. -/
  accepts : Int := 0
  /-- The connections handled so far. -/
  handled : Int := 0
  /-- The requests so far. -/
  requests : Int := 0
  reading : Int := 0
  writing : Int := 0
  waiting : Int := 0
deriving DecidableEq, Repr, Inhabited

-- ============================================================== reading

/-- What the lines read so far say: the counters, and the number of active
connections if the last line about it had one. -/
structure Page where
  counters : StubStatus := {}
  active : Option Int := none
deriving DecidableEq, Repr, Inhabited

/-- How the line of active connections begins. -/
def activeTitle : List Char := "Active connections:".toList

/-- The counters after a line that is not about active connections: three
numbers, the first of them positive, or the three kinds of connections. A
kind without a number has none. -/
def StubStatus.addWords (s : StubStatus) : List (List Char) → StubStatus
  | [title, reading, title', writing, title'', waiting] =>
    if title = "Reading:".toList ∧ title' = "Writing:".toList ∧ title'' = "Waiting:".toList then
      { s with
        reading := (Text.int64? reading).getD 0
        writing := (Text.int64? writing).getD 0
        waiting := (Text.int64? waiting).getD 0 }
    else s
  | [accepts, handled, requests] =>
    match Text.int64? accepts, Text.int64? handled, Text.int64? requests with
    | some accepts, some handled, some requests =>
      if 0 < accepts then { s with accepts, handled, requests } else s
    | _, _, _ => s
  | _ => s

/-- What the page says after one more line. -/
def Page.addLine (p : Page) (line : List Char) : Page :=
  let line := Text.trim line
  match Text.dropStart? activeTitle line with
  | some rest => { p with active := Text.int64? (Text.trim rest) }
  | none => { p with counters := p.counters.addWords (Text.words line) }

/-- Reads a page. -/
def StubStatus.ofText? (page : List Char) : Option StubStatus :=
  let p := (Text.lines page).foldl Page.addLine {}
  p.active.map fun active => { p.counters with active }

-- ============================================================ reporting

/-- The report of a server with these counters. The difference of two has 64
bits with a sign, as the counters have. -/
def StubStatus.report (s : StubStatus) : Report :=
  let dropped := Int64.ofInt s.accepts - Int64.ofInt s.handled
  .ofDetails .running
    [⟨"Active Connections", Text.grouped s.active, .number⟩,
      ⟨"Total Requests", Text.grouped s.requests, .number⟩,
      ⟨"Reading", Text.grouped s.reading, .number⟩,
      ⟨"Writing", Text.grouped s.writing, .number⟩]
    (.obj [("activeConnections", .int s.active), ("accepts", .int s.accepts),
      ("handled", .int s.handled), ("requests", .int s.requests), ("reading", .int s.reading),
      ("writing", .int s.writing), ("waiting", .int s.waiting),
      ("dropped", .int dropped.toInt)])

end HostTelemetry.Nginx
