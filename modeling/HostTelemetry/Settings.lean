/-
The settings of the agent: how often it looks at what, where the engine of
the containers is, how much subscribers may leave waiting, and the web
password of a Pi-hole.

They are read from a TOML document; what it leaves out has its usual
value, and what it says besides is passed over. Periods and limits must
not be zero. Where there is no document, all values are the usual ones.
-/
import HostTelemetry.Text.Integer
import HostTelemetry.Text.Utf8
import HostTelemetry.Toml.Data
import HostTelemetry.Toml.Reader

namespace HostTelemetry

/-- How often the agent looks, and how much it keeps. -/
structure Monitoring where
  /-- The milliseconds between two samples of the host. -/
  sampleMillis : Nat := 1000
  /-- The seconds between two looks at the containers. -/
  dockerSecs : Nat := 5
  /-- The seconds between two detections. -/
  detectSecs : Nat := 30
  /-- The seconds between two collections. -/
  collectSecs : Nat := 10
  /-- The seconds that the collection from one service may take. -/
  collectTimeoutSecs : Nat := 8
  /-- The seconds between two lines that sum up what was published. -/
  digestSecs : Nat := 60
  processKeep : Nat := 15
deriving DecidableEq, Repr, Inhabited

/-- The settings of the agent. -/
structure Settings where
  /-- How often it looks. -/
  monitoring : Monitoring := {}
  dockerSocket : String := "/var/run/docker.sock"
  subscriberBuffer : Nat := 2
  /-- The web password of a Pi-hole; empty if there is none. -/
  piholePassword : String := ""
deriving DecidableEq, Repr, Inhabited

namespace Settings

-- =============================================================== faults

/-- Why there are no settings. -/
inductive Fault where
  /-- The document is no TOML, or a setting is of another type. -/
  | malformed
  /-- The document cannot be read. -/
  | unreadable
  | zero (name : String)
  | noSocket
deriving DecidableEq, Repr, Inhabited

/-- The text for people about settings that are not allowed. -/
def Fault.message : Fault → String
  | .malformed => "malformed settings"
  | .unreadable => "unreadable settings"
  | .zero name => s!"{name} must be > 0, got 0"
  | .noSocket => "docker.socket must be non-empty"

-- ============================================================== reading

/-- A number of 64 bits. -/
def asNatural? : Toml.Value → Option Nat
  | .int n => if 0 ≤ n ∧ n ≤ Text.maxU64 then some n.toNat else none
  | _ => none

/-- A text. -/
def asText? : Toml.Value → Option String
  | .str s => some s
  | _ => none

/-- The values that a section gives for its settings in their order. A
table must be passable besides; a list gives them by place, and what it
holds behind them is not looked at; a moment has no settings. -/
def slots? (names : List String) : Toml.Value → Option (List (Option Toml.Value))
  | .table _ fields =>
    if Toml.arePassableFields (fields.filter (!names.contains ·.1)) then
      some (names.map (Toml.Fields.get? fields))
    else none
  | .arr _ items => some ((List.range names.length).map fun i => items[i]?)
  | .moment => some (names.map fun _ => none)
  | _ => none

/-- A setting that may be left out. -/
def orElse? {α : Type} (usual : α) (read? : Toml.Value → Option α) : Option Toml.Value → Option α
  | none => some usual
  | some v => read? v

/-- Reads how often to look. -/
def monitoring? (v : Toml.Value) : Option Monitoring := do
  let usual : Monitoring := {}
  match ← slots? ["sample_interval_ms", "docker_interval_secs", "detect_interval_secs",
      "collect_interval_secs", "collect_timeout_secs", "stats_log_interval_secs",
      "process_keep"] v with
  | [sample, docker, detect, collect, timeout, digest, keep] =>
    return {
      sampleMillis := ← orElse? usual.sampleMillis asNatural? sample
      dockerSecs := ← orElse? usual.dockerSecs asNatural? docker
      detectSecs := ← orElse? usual.detectSecs asNatural? detect
      collectSecs := ← orElse? usual.collectSecs asNatural? collect
      collectTimeoutSecs := ← orElse? usual.collectTimeoutSecs asNatural? timeout
      digestSecs := ← orElse? usual.digestSecs asNatural? digest
      processKeep := ← orElse? usual.processKeep asNatural? keep }
  | _ => none

/-- Reads a section with a single setting. -/
def single? {α : Type} (name : String) (usual : α) (read? : Toml.Value → Option α)
    (v : Toml.Value) : Option α := do
  match ← slots? [name] v with
  | [slot] => orElse? usual read? slot
  | _ => none

/-- Reads settings, whatever their values. -/
def ofTable? (v : Toml.Value) : Option Settings := do
  let usual : Settings := {}
  match ← slots? ["monitoring", "docker", "publishing", "services"] v with
  | [monitoring, docker, publishing, services] =>
    return {
      monitoring := ← orElse? usual.monitoring monitoring? monitoring
      dockerSocket := ← orElse? usual.dockerSocket (single? "socket" usual.dockerSocket asText?)
        docker
      subscriberBuffer := ← orElse? usual.subscriberBuffer
        (single? "subscriber_buffer" usual.subscriberBuffer asNatural?) publishing
      piholePassword := ← orElse? usual.piholePassword
        (single? "pihole" usual.piholePassword (single? "password" usual.piholePassword asText?))
        services }
  | _ => none

-- ============================================================= checking

/-- The first setting that is not allowed. -/
def fault? (s : Settings) : Option Fault :=
  let m := s.monitoring
  let zero (name : String) (n : Nat) : Option Fault := if n = 0 then some (.zero name) else none
  [zero "monitoring.sample_interval_ms" m.sampleMillis,
    zero "monitoring.docker_interval_secs" m.dockerSecs,
    zero "monitoring.detect_interval_secs" m.detectSecs,
    zero "monitoring.collect_interval_secs" m.collectSecs,
    zero "monitoring.collect_timeout_secs" m.collectTimeoutSecs,
    zero "monitoring.stats_log_interval_secs" m.digestSecs,
    zero "monitoring.process_keep" m.processKeep,
    if s.dockerSocket = "" then some .noSocket else none,
    zero "publishing.subscriber_buffer" s.subscriberBuffer].findSome? id

/-- The settings, if they are allowed. -/
def checked (s : Settings) : Except Fault Settings :=
  match s.fault? with
  | some e => .error e
  | none => .ok s

/-- The settings that a document gives. -/
def ofDocument (text : String) : Except Fault Settings :=
  match (Toml.ofString? text).bind fun fields => ofTable? (.table .header fields) with
  | some s => s.checked
  | none => .error .malformed

/-- What may stand where the document is looked for. -/
inductive Source where
  | missing
  /-- Something that cannot be read. -/
  | unreadable
  | file (content : Bytes)
deriving Inhabited

/-- The settings of a source. -/
def load : Source → Except Fault Settings
  | .missing => checked {}
  | .unreadable => .error .unreadable
  | .file content =>
    match Text.decode? content with
    | some text => ofDocument (String.ofList text)
    | none => .error .unreadable

-- ================================================================ views

/-- The text for people that tells whether there is a password, and not
which. -/
def piholeText (s : Settings) : String :=
  let shown := if s.piholePassword = "" then "" else "<redacted>"
  s!"PiHoleConfig \x7b password: \"{shown}\" \x7d"

/-- The periods of the workers. -/
structure Periods where
  /-- Of the samples, in milliseconds. -/
  sampleMillis : Nat
  /-- Of looks at the containers, in seconds. -/
  dockerSecs : Nat
  /-- Of detections, in seconds. -/
  detectSecs : Nat
  /-- Of collections, in seconds. -/
  collectSecs : Nat
  /-- Of the lines that sum up, in seconds. -/
  digestSecs : Nat
deriving DecidableEq, Repr, Inhabited

/-- The periods that the settings give. -/
def periods (s : Settings) : Periods where
  sampleMillis := s.monitoring.sampleMillis
  dockerSecs := s.monitoring.dockerSecs
  detectSecs := s.monitoring.detectSecs
  collectSecs := s.monitoring.collectSecs
  digestSecs := s.monitoring.digestSecs

end Settings

end HostTelemetry
