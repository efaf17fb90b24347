/-
The worker that keeps the services up to date. It detects at once and then
periodically, each time followed by a collection, and collects on a period
of its own in between. It does one thing at a time: a timer that becomes
due meanwhile waits.

What it does is a list of happenings with their moments, from which one
can read when it asked whom and what it published. What is not up to the
worker is kept apart, as its circumstances.
-/
import HostTelemetry.Service.Detector
import HostTelemetry.Settings
import HostTelemetry.Worker.Timer

namespace HostTelemetry.Worker

open Discovery (Environment)
open Http.Dialogue (Server)
open Service (Detector Entry Setting)

/-- What the worker does when a timer is due. -/
inductive Task where
  | detect
  | collect
deriving DecidableEq, Repr, Inhabited

/-- Something that the worker does at a moment. -/
inductive Happening where
  | detecting (moment : Nat) (plugins : List String)
  /-- The plugins are back, and these have a record now. -/
  | detected (moment : Nat) (plugins : List String)
  | collecting (moment : Nat) (plugins : List String)
  | published (moment : Nat) (entries : List Entry)
deriving Inhabited

/-- The moment of a happening. -/
def Happening.moment : Happening → Nat
  | detecting m _ | detected m _ | collecting m _ | published m _ => m

/-- The worker between two steps. -/
structure ServiceLoop (σ : Type) where
  now : Nat := 0
  /-- When to detect. -/
  detectTimer : Timer
  /-- When to collect. -/
  collectTimer : Timer
  detector : Detector
  server : σ
  /-- What has happened, the latest first. -/
  past : List Happening := []

/-- What is not up to the worker, though it may hang on all that the
worker did. -/
structure Circumstances (σ : Type) where
  environment : ServiceLoop σ → Environment := fun _ => {}
  /-- The milliseconds that it takes to look at the host. -/
  looking : ServiceLoop σ → Nat := fun _ => 0
  /-- Which of two tasks begins, when both can. -/
  first : ServiceLoop σ → Task := fun _ => .detect
  /-- The settings that others give before a collection begins. -/
  before : ServiceLoop σ → List Setting := fun _ => []
  meanwhile : ServiceLoop σ → List Setting := fun _ => []

namespace ServiceLoop

variable {σ : Type}

/-- The worker at its start. -/
def start (detector : Detector) (server : σ) (detectPeriod collectPeriod : Nat) :
    ServiceLoop σ where
  detectTimer := .immediate detectPeriod
  collectTimer := .delayed collectPeriod
  detector := detector
  server := server

/-- The worker at its start with these periods, if the clock holds the first
moment at which it collects on its own. -/
def startFrom? (now : Nat) (p : Settings.Periods) (detector : Detector) (server : σ) :
    Option (ServiceLoop σ) :=
  (Timer.delayedFrom? now p.collectSecs).map fun collectTimer =>
    { detectTimer := .immediate (1000 * p.detectSecs), collectTimer, detector, server }

-- ================================================================ choice

/-- The moment at which a timer is served next. -/
def nextMoment (l : ServiceLoop σ) : Nat :=
  max l.now (min l.detectTimer.due l.collectTimer.due)

/-- Whether a task can begin at the next moment. -/
def isReady (l : ServiceLoop σ) : Task → Bool
  | .detect => l.detectTimer.due ≤ l.nextMoment
  | .collect => l.collectTimer.due ≤ l.nextMoment

/-- The task that begins at the next moment. One of them can, since that
moment is not before both timers. -/
def nextTask (l : ServiceLoop σ) (c : Circumstances σ) : Task :=
  if l.isReady .detect then
    if l.isReady .collect then c.first l else .detect
  else .collect

-- ================================================================= tasks

/-- Collects. -/
def collect (l : ServiceLoop σ) (srv : Server σ) (c : Circumstances σ) : ServiceLoop σ :=
  let detector := l.detector.configureAll (c.before l)
  let after := detector.collect srv (c.meanwhile l) l.server
  let done := l.now + after.elapsed
  { l with
    now := done, detector := after.detector, server := after.server
    past := .published done after.detector.entries
      :: .collecting l.now detector.asked :: l.past }

/-- Detects. -/
def detect (l : ServiceLoop σ) (srv : Server σ) (c : Circumstances σ) : ServiceLoop σ :=
  let after := l.detector.detect srv (c.environment l) (c.meanwhile l) l.server
  let done := l.now + c.looking l + after.elapsed
  { l with
    now := done, detector := after.detector, server := after.server
    past := .detected done after.detector.asked
      :: .detecting l.now (l.detector.members.map (·.id)) :: l.past }

/-- Does a task at the next moment. -/
def perform (l : ServiceLoop σ) (srv : Server σ) (c : Circumstances σ) :
    Task → ServiceLoop σ
  | .detect =>
    let now := l.nextMoment
    (({ l with now, detectTimer := l.detectTimer.served now }).detect srv c).collect srv c
  | .collect =>
    let now := l.nextMoment
    ({ l with now, collectTimer := l.collectTimer.served now }).collect srv c

/-- Does what is due, one task after the other, as long as they begin
before the end. -/
def runOn (srv : Server σ) (c : Circumstances σ) (stop : Nat) :
    Nat → ServiceLoop σ → ServiceLoop σ
  | 0, l => l
  | fuel + 1, l =>
    if l.nextMoment ≤ stop then runOn srv c stop fuel (l.perform srv c (l.nextTask c)) else l

/-- What happens up to the end, the earliest first. A task that is not
done by then is broken off. -/
def happenings (l : ServiceLoop σ) (srv : Server σ) (c : Circumstances σ) (stop : Nat) :
    List Happening :=
  ((l.runOn srv c stop (2 * stop + 2)).past.filter (·.moment ≤ stop)).reverse

end ServiceLoop

end HostTelemetry.Worker
