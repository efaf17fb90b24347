/-
What a refresh finds of the containers, whatever the engine answers.

# Three parts

What is published of a container has three parts, and each has one source:
who it is comes from the list, what it uses from the statistics, and how
it was started from the inspection. A source fills its part as a whole or
not at all, and no other part (`listed_withStatistics` and its sisters).
What it tells of each figure of its part is in `Summary.Tells` and its
sisters, and that determines the part.

# In time

Statistics count if the container runs and they come within its budget
(`Engine.Measures`). An inspection counts if it comes within what waiting
for the statistics has left of it (`Engine.Inspects`). `Filled` says what
that makes of an entry, and it leaves nothing open: two entries filled by
the same answers are the same (`Filled.unique`), so neither the other
containers nor the order of the list have a part in it.
-/
import HostTelemetry.Container.Inventory
import HostTelemetry.Proofs.Container.Bindings
import Mathlib.Algebra.Ring.Nat
import Mathlib.Data.List.Forall2

namespace HostTelemetry.Container

open Number (round2)

-- ======================================================= parts of an entry

/-- Who a container is, as the list tells it. -/
structure Listed where
  id : String
  name : String
  image : String
  status : State
deriving DecidableEq

/-- What a container uses. -/
structure Resources where
  cpuPercent : Float := 0
  memoryUsageMB : Float := 0
  memoryLimitMB : Float := 0
  networkRx : UInt64 := 0
  networkTx : UInt64 := 0
  blockRead : UInt64 := 0
  blockWrite : UInt64 := 0
  pids : UInt64 := 0

/-- How a container was started and how it does. -/
structure Details where
  startedAt : String := ""
  restartCount : Int64 := 0
  healthStatus : String := "none"
  ports : List Port := []
deriving DecidableEq

namespace Usage

/-- Who the container is. -/
def listed (u : Usage) : Listed := ⟨u.id, u.name, u.image, u.status⟩

/-- What the container uses. -/
def resources (u : Usage) : Resources :=
  ⟨u.cpuPercent, u.memoryUsageMB, u.memoryLimitMB, u.networkRx, u.networkTx, u.blockRead,
    u.blockWrite, u.pids⟩

/-- How the container was started and how it does. -/
def details (u : Usage) : Details := ⟨u.startedAt, u.restartCount, u.healthStatus, u.ports⟩

/-- An entry is its three parts. -/
theorem ext_parts {u v : Usage} (hlisted : u.listed = v.listed)
    (hresources : u.resources = v.resources) (hdetails : u.details = v.details) : u = v := by
  cases u
  cases v
  simp only [listed, resources, details, Listed.mk.injEq, Resources.mk.injEq,
    Details.mk.injEq] at hlisted hresources hdetails
  simp [hlisted, hresources, hdetails]

end Usage

-- ====================================================== what answers tell

/-- What the list tells of who a container is: the first twelve characters of
its number, the first of its names without the slashes in front, its image, and
by a word, in any case, whether it runs or starts again. -/
structure Summary.Tells (s : Summary) (l : Listed) : Prop where
  id : l.id.toList = s.id.toList.take 12
  named : ∀ name more, s.names = some (name :: more) →
    l.name.toList = name.toList.dropWhile (· = '/')
  unnamed : s.names = none ∨ s.names = some [] → l.name = ""
  image : l.image = s.image
  runs : l.status = .running ↔ Text.lowercase s.state.toList = "running".toList
  restarts : l.status = .restarting ↔ Text.lowercase s.state.toList = "restarting".toList

/-- The bytes of the accesses to disks whose name is of one kind, in any
case. -/
def Statistics.accessed (s : Statistics) (kind : String) : Nat :=
  ((s.blockAccess.filter fun access => access.1.map Char.toLower = kind).map (·.2)).sum

/-- What statistics tell of what a container uses, figure by figure. Sums of
bytes have 64 bits. -/
structure Statistics.Tells (s : Statistics) (r : Resources) : Prop where
  /-- Where both times have grown since the reading before: the container's part
  of the system's time, for each core that it is listed for, or else that is
  online, or else for one. -/
  busy : ∀ now before, s.cpu = some now → s.before = some before →
    before.container < now.container → before.system < now.system →
    r.cpuPercent = round2 (Float.ofNat (now.container - before.container)
      / Float.ofNat (now.system - before.system)
      * Float.ofNat (max (if now.listedCores = 0 then now.onlineCores else now.listedCores) 1)
      * 100)
  idle : (∀ now before, s.cpu = some now → s.before = some before →
      now.container ≤ before.container ∨ now.system ≤ before.system) →
    r.cpuPercent = 0
  memory : r.memoryUsageMB = round2 (Float.ofNat s.memoryUsage / (1024 * 1024))
  limited : 0 < s.memoryLimit → s.memoryLimit < 2 ^ 62 →
    r.memoryLimitMB = round2 (Float.ofNat s.memoryLimit / (1024 * 1024))
  unlimited : s.memoryLimit = 0 ∨ 2 ^ 62 ≤ s.memoryLimit → r.memoryLimitMB = 0
  received : r.networkRx.toNat = (s.networks.map (·.1)).sum % 2 ^ 64
  sent : r.networkTx.toNat = (s.networks.map (·.2)).sum % 2 ^ 64
  read : r.blockRead.toNat = s.accessed "read" % 2 ^ 64
  written : r.blockWrite.toNat = s.accessed "write" % 2 ^ 64
  pids : r.pids.toNat = s.pids % 2 ^ 64

/-- What an inspection tells of how a container was started and how it does,
one by one; what it does not know is left as it is for a container of which
nothing is known. -/
structure Inspection.Tells (i : Inspection) (d : Details) : Prop where
  started : d.startedAt = i.startedAt.getD ""
  restarts : d.restartCount = i.restartCount
  health : ∀ word, i.health = some word → word ≠ "" → d.healthStatus = word
  unchecked : i.health = none ∨ i.health = some "" → d.healthStatus = "none"
  /-- The ports are in strict order, and they are those that the bindings
  name. -/
  bound : ∀ map, i.ports = some map → d.ports.Pairwise (·.before ·) ∧
    ∀ p : Port, p ∈ d.ports ↔ ∃ key texts, (key, some texts) ∈ map ∧
      NamesPort key p.container p.protocol ∧
        ∃ s, some s ∈ texts ∧ Text.IsNatural s.toList p.host.toNat
  unbound : i.ports = none → d.ports = []

/-- What the list tells leaves nothing open. -/
theorem Summary.Tells.unique {s : Summary} {l l' : Listed} (h : s.Tells l) (h' : s.Tells l') :
    l = l' := by
  have hid := String.toList_inj.mp (h.id.trans h'.id.symm)
  have hname : l.name = l'.name := by
    cases hn : s.names with
    | none => exact (h.unnamed (.inl hn)).trans (h'.unnamed (.inl hn)).symm
    | some names =>
      cases names with
      | nil => exact (h.unnamed (.inr hn)).trans (h'.unnamed (.inr hn)).symm
      | cons name more =>
        exact String.toList_inj.mp ((h.named name more hn).trans (h'.named name more hn).symm)
  have himage := h.image.trans h'.image.symm
  have hstatus : l.status = l'.status := by
    have hruns := h.runs.trans h'.runs.symm
    have hrestarts := h.restarts.trans h'.restarts.symm
    cases hl : l.status <;> cases hl' : l'.status <;> simp_all
  cases l
  cases l'
  simp only [Listed.mk.injEq]
  exact ⟨hid, hname, himage, hstatus⟩

/-- Nor does what statistics tell. -/
theorem Statistics.Tells.unique {s : Statistics} {r r' : Resources} (h : s.Tells r)
    (h' : s.Tells r') : r = r' := by
  have hcpu : r.cpuPercent = r'.cpuPercent := by
    by_cases hidle : ∀ now before, s.cpu = some now → s.before = some before →
        now.container ≤ before.container ∨ now.system ≤ before.system
    · exact (h.idle hidle).trans (h'.idle hidle).symm
    · push Not at hidle
      obtain ⟨now, before, hnow, hbefore, hcontainer, hsystem⟩ := hidle
      exact (h.busy now before hnow hbefore hcontainer hsystem).trans
        (h'.busy now before hnow hbefore hcontainer hsystem).symm
  have hlimit : r.memoryLimitMB = r'.memoryLimitMB := by
    by_cases hnone : s.memoryLimit = 0 ∨ 2 ^ 62 ≤ s.memoryLimit
    · exact (h.unlimited hnone).trans (h'.unlimited hnone).symm
    · push Not at hnone
      have hpos := Nat.pos_of_ne_zero hnone.1
      exact (h.limited hpos hnone.2).trans (h'.limited hpos hnone.2).symm
  have hmemory := h.memory.trans h'.memory.symm
  have hreceived := UInt64.toNat_inj.mp (h.received.trans h'.received.symm)
  have hsent := UInt64.toNat_inj.mp (h.sent.trans h'.sent.symm)
  have hread := UInt64.toNat_inj.mp (h.read.trans h'.read.symm)
  have hwritten := UInt64.toNat_inj.mp (h.written.trans h'.written.symm)
  have hpids := UInt64.toNat_inj.mp (h.pids.trans h'.pids.symm)
  cases r
  cases r'
  simp only [Resources.mk.injEq]
  exact ⟨hcpu, hmemory, hlimit, hreceived, hsent, hread, hwritten, hpids⟩

/-- And neither does what an inspection tells. -/
theorem Inspection.Tells.unique {i : Inspection} {d d' : Details} (h : i.Tells d)
    (h' : i.Tells d') : d = d' := by
  have hstarted := h.started.trans h'.started.symm
  have hrestarts := h.restarts.trans h'.restarts.symm
  have hhealth : d.healthStatus = d'.healthStatus := by
    by_cases hnone : i.health = none ∨ i.health = some ""
    · exact (h.unchecked hnone).trans (h'.unchecked hnone).symm
    · obtain ⟨hsome, hword⟩ := not_or.mp hnone
      obtain ⟨word, hhealth⟩ := Option.ne_none_iff_exists'.mp hsome
      have hne : word ≠ "" := fun heq => hword (heq ▸ hhealth)
      exact (h.health word hhealth hne).trans (h'.health word hhealth hne).symm
  have hports : d.ports = d'.ports := by
    cases hp : i.ports with
    | none => exact (h.unbound hp).trans (h'.unbound hp).symm
    | some map =>
      obtain ⟨hsorted, hmem⟩ := h.bound map hp
      obtain ⟨hsorted', hmem'⟩ := h'.bound map hp
      exact hsorted.eq_of_mem_iff hsorted' fun p => (hmem p).trans (hmem' p).symm
  cases d
  cases d'
  simp only [Details.mk.injEq]
  exact ⟨hstarted, hrestarts, hhealth, hports⟩

-- ================================================================ filling

theorem State.ofWord_eq_running_iff {word : String} :
    State.ofWord word = .running ↔ Text.lowercase word.toList = "running".toList := by
  dsimp only [State.ofWord]
  split
  · next h => exact iff_of_true rfl h
  · next h =>
    refine iff_of_false ?_ h
    split
    · exact State.noConfusion
    · exact State.noConfusion

theorem State.ofWord_eq_restarting_iff {word : String} :
    State.ofWord word = .restarting ↔ Text.lowercase word.toList = "restarting".toList := by
  dsimp only [State.ofWord]
  split
  · next h =>
    rw [h]
    exact iff_of_false State.noConfusion (by decide)
  · split
    · next h => exact iff_of_true rfl h
    · next h => exact iff_of_false State.noConfusion h

theorem tells_ofSummary (s : Summary) : s.Tells (Usage.ofSummary s).listed where
  id := String.toList_ofList
  named name more hn := by
    show (cleanName s.names).toList = _
    rw [hn, cleanName, String.toList_ofList]
  unnamed hn := by
    show cleanName s.names = ""
    rcases hn with hn | hn
    · rw [hn]
      rfl
    · rw [hn]
      rfl
  image := rfl
  runs := State.ofWord_eq_running_iff
  restarts := State.ofWord_eq_restarting_iff

theorem totalBytes_eq_sum (counters : List Nat) : totalBytes counters = counters.sum :=
  List.sum_eq_foldl.symm

theorem cores_eq (c : CpuReading) :
    max c.cores 1 = max (if c.listedCores = 0 then c.onlineCores else c.listedCores) 1 := by
  unfold CpuReading.cores
  by_cases hlisted : c.listedCores = 0
  · by_cases honline : c.onlineCores = 0
    · simp [hlisted, honline]
    · simp [hlisted, honline]
  · simp [hlisted]

section Parts

variable (u : Usage) (s : Statistics) (i : Inspection)

/-- Statistics fill what the container uses, whatever was there. -/
theorem tells_withStatistics : s.Tells (u.withStatistics s).resources where
  busy now before hnow hbefore hcontainer hsystem := by
    show s.cpuPercent = _
    rw [Statistics.cpuPercent, hnow, hbefore]
    show cpuPercent _ _ _ = _
    rw [cpuPercent, if_neg (by omega), cores_eq, ← Int.ofNat_sub (Nat.le_of_lt hcontainer),
      ← Int.ofNat_sub (Nat.le_of_lt hsystem)]
    rfl
  idle hidle := by
    show s.cpuPercent = 0
    unfold Statistics.cpuPercent
    split
    · next now before hnow hbefore =>
      have hnone := hidle now before hnow hbefore
      exact if_pos (by omega)
    · rfl
  memory := rfl
  limited hpos hlt := if_pos ⟨hpos, hlt⟩
  unlimited hnone := if_neg fun h => by
    have hlt : s.memoryLimit < 2 ^ 62 := h.2
    omega
  received := by
    rw [← totalBytes_eq_sum]
    exact UInt64.toNat_ofNat'
  sent := by
    rw [← totalBytes_eq_sum]
    exact UInt64.toNat_ofNat'
  read := by
    rw [Statistics.accessed, ← totalBytes_eq_sum]
    exact UInt64.toNat_ofNat'
  written := by
    rw [Statistics.accessed, ← totalBytes_eq_sum]
    exact UInt64.toNat_ofNat'
  pids := UInt64.toNat_ofNat'

theorem listed_withStatistics : (u.withStatistics s).listed = u.listed := rfl

theorem details_withStatistics : (u.withStatistics s).details = u.details := rfl

theorem listed_withInspection : (u.withInspection i).listed = u.listed := rfl

theorem resources_withInspection : (u.withInspection i).resources = u.resources := rfl

/-- An inspection fills how the container was started, if nothing was
there. -/
theorem tells_withInspection {u : Usage} (h : u.details = {}) :
    i.Tells (u.withInspection i).details := by
  simp only [Usage.details, Details.mk.injEq] at h
  obtain ⟨hstarted, -, hhealth, hports⟩ := h
  refine ⟨?_, rfl, fun word hword hne => ?_, fun hnone => ?_, fun map hmap => ?_, fun hnone => ?_⟩
  · show i.startedAt.getD u.startedAt = _
    rw [hstarted]
  · show (i.health.filter (· ≠ "")).getD u.healthStatus = word
    simp [Option.filter, hword, hne]
  · show (i.health.filter (· ≠ "")).getD u.healthStatus = "none"
    rcases hnone with hnone | hnone
    · simp [hnone, hhealth]
    · simp [Option.filter, hnone, hhealth]
  · have hpublished : (u.withInspection i).details.ports = publishedPorts map := by
      show (i.ports.map publishedPorts).getD u.ports = _
      rw [hmap, Option.map_some, Option.getD_some]
    rw [hpublished]
    exact ⟨pairwise_publishedPorts map, fun p => mem_publishedPorts_iff⟩
  · show (i.ports.map publishedPorts).getD u.ports = []
    rw [hnone, Option.map_none, Option.getD_none, hports]

end Parts

theorem resources_ofSummary (s : Summary) : (Usage.ofSummary s).resources = {} := rfl

theorem details_ofSummary (s : Summary) : (Usage.ofSummary s).details = {} := rfl

-- ================================================================ in time

namespace Answer

variable {α : Type} {a : Answer α} {budget : Nat}

/-- The answer is this value, and it comes within the budget. -/
def Brings (a : Answer α) (budget : Nat) (v : α) : Prop :=
  ∃ millis ≤ budget, a = .after millis (some v)

/-- The milliseconds until the answer is there, a failure included. -/
def wait? : Answer α → Option Nat
  | .after millis _ => some millis
  | .silence => none

theorem within?_eq_some_iff {value : Option α} {left : Nat} :
    a.within? budget = some (value, left) ↔
      ∃ millis ≤ budget, a = .after millis value ∧ left = budget - millis := by
  cases a with
  | silence => simp [within?]
  | after millis value' =>
    by_cases hle : millis ≤ budget
    · simp only [within?, if_pos hle, Option.some.injEq, Prod.mk.injEq, after.injEq]
      constructor
      · rintro ⟨rfl, rfl⟩
        exact ⟨millis, hle, ⟨rfl, rfl⟩, rfl⟩
      · rintro ⟨_, -, ⟨rfl, rfl⟩, rfl⟩
        exact ⟨rfl, rfl⟩
    · simp only [within?, if_neg hle, reduceCtorEq, after.injEq, false_iff]
      rintro ⟨_, hle', ⟨rfl, -⟩, -⟩
      exact hle hle'

theorem within?_eq_none_iff :
    a.within? budget = none ↔ ∀ millis, a.wait? = some millis → budget < millis := by
  cases a with
  | silence => simp [within?, wait?]
  | after millis value =>
    by_cases hle : millis ≤ budget
    · simp [within?, wait?, hle]
    · simp [within?, wait?, Nat.lt_of_not_le hle]

/-- An answer has one value. -/
theorem Brings.unique {v w : α} {budget' : Nat} (hv : a.Brings budget v)
    (hw : a.Brings budget' w) : v = w := by
  obtain ⟨m, -, rfl⟩ := hv
  obtain ⟨n, -, heq⟩ := hw
  cases heq
  rfl

theorem brings_iff {v : α} :
    a.Brings budget v ↔ ∃ left, a.within? budget = some (some v, left) := by
  simp only [within?_eq_some_iff]
  constructor
  · rintro ⟨millis, hle, ha⟩
    exact ⟨budget - millis, millis, hle, ha, rfl⟩
  · rintro ⟨-, millis, hle, ha, -⟩
    exact ⟨millis, hle, ha⟩

end Answer

namespace Engine

variable (e : Engine) (budget : Nat) (s : Summary)

/-- The statistics that count for a container. -/
def Measures (v : Statistics) : Prop :=
  State.ofWord s.state = .running ∧ (e.statistics s.id).Brings budget v

/-- The milliseconds for which the statistics of a container are waited
for; only one that runs is asked for them. -/
def measuring? : Option Nat :=
  if State.ofWord s.state = .running then (e.statistics s.id).wait? else some 0

/-- The inspection that counts for a container. -/
def Inspects (i : Inspection) : Prop :=
  ∃ before, e.measuring? s = some before ∧ before ≤ budget ∧
    (e.inspection s.id).Brings (budget - before) i

end Engine

-- =============================================================== one entry

/-- What the answers that count make of an entry. -/
structure Filled (e : Engine) (budget : Nat) (s : Summary) (u : Usage) : Prop where
  listed : s.Tells u.listed
  measured : ∀ v, e.Measures budget s v → v.Tells u.resources
  unmeasured : (∀ v, ¬ e.Measures budget s v) → u.resources = {}
  inspected : ∀ i, e.Inspects budget s i → i.Tells u.details
  uninspected : (∀ i, ¬ e.Inspects budget s i) → u.details = {}

variable {e e' : Engine} {budget budget' : Nat} {s : Summary} {u u' : Usage}

/-- The answers that count leave nothing open. -/
theorem Filled.unique (h : Filled e budget s u) (h' : Filled e' budget' s u')
    (hmeasures : ∀ v, e.Measures budget s v ↔ e'.Measures budget' s v)
    (hinspects : ∀ i, e.Inspects budget s i ↔ e'.Inspects budget' s i) : u = u' := by
  refine Usage.ext_parts (h.listed.unique h'.listed) ?_ ?_
  · by_cases hv : ∃ v, e.Measures budget s v
    · obtain ⟨v, hv⟩ := hv
      exact (h.measured v hv).unique (h'.measured v ((hmeasures v).mp hv))
    · have hnone : ∀ v, ¬ e.Measures budget s v := not_exists.mp hv
      exact (h.unmeasured hnone).trans
        (h'.unmeasured fun v => (hmeasures v).not.mp (hnone v)).symm
  · by_cases hi : ∃ i, e.Inspects budget s i
    · obtain ⟨i, hi⟩ := hi
      exact (h.inspected i hi).unique (h'.inspected i ((hinspects i).mp hi))
    · have hnone : ∀ i, ¬ e.Inspects budget s i := not_exists.mp hi
      exact (h.uninspected hnone).trans
        (h'.uninspected fun i => (hinspects i).not.mp (hnone i)).symm

/-- An entry with its inspection, if that comes in time. -/
def inspectedWithin (a : Answer Inspection) (left : Nat) (u : Usage) : Usage :=
  match a.within? left with
  | some (some i, _) => u.withInspection i
  | _ => u

theorem inspectedWithin_of_brings {a : Answer Inspection} {left : Nat} {i : Inspection}
    (h : a.Brings left i) (u : Usage) : inspectedWithin a left u = u.withInspection i := by
  obtain ⟨rest, hrest⟩ := Answer.brings_iff.mp h
  simp [inspectedWithin, hrest]

theorem inspectedWithin_of_not {a : Answer Inspection} {left : Nat} (h : ∀ i, ¬ a.Brings left i)
    (u : Usage) : inspectedWithin a left u = u := by
  unfold inspectedWithin
  split
  · next i rest hrest => exact absurd (Answer.brings_iff.mpr ⟨rest, hrest⟩) (h i)
  · rfl

/-- The last step of an entry. What it has so far is right but for the
inspection, and what is left of the budget decides if that counts. -/
theorem filled_inspectedWithin {left : Nat} (hlisted : s.Tells u.listed)
    (hmeasured : ∀ v, e.Measures budget s v → v.Tells u.resources)
    (hunmeasured : (∀ v, ¬ e.Measures budget s v) → u.resources = {})
    (hdetails : u.details = {})
    (hleft : ∀ i, e.Inspects budget s i ↔ (e.inspection s.id).Brings left i) :
    Filled e budget s (inspectedWithin (e.inspection s.id) left u) := by
  by_cases hi : ∃ i, (e.inspection s.id).Brings left i
  · obtain ⟨i, hi⟩ := hi
    rw [inspectedWithin_of_brings hi]
    refine ⟨?_, ?_, ?_, fun i' hi' => ?_, fun hnone => ?_⟩
    · rw [listed_withInspection]
      exact hlisted
    · rw [resources_withInspection]
      exact hmeasured
    · rw [resources_withInspection]
      exact hunmeasured
    · rw [← hi.unique ((hleft i').mp hi')]
      exact tells_withInspection i hdetails
    · exact absurd ((hleft i).mpr hi) (hnone i)
  · have hnone : ∀ i, ¬ (e.inspection s.id).Brings left i := not_exists.mp hi
    rw [inspectedWithin_of_not hnone]
    refine ⟨hlisted, hmeasured, hunmeasured, fun i' hi' => ?_, fun _ => hdetails⟩
    exact absurd ((hleft i').mp hi') (hnone i')

/-- A container that does not run is only inspected. -/
theorem filled_of_not_running (hstate : State.ofWord s.state ≠ .running) :
    Filled e budget s (inspectedWithin (e.inspection s.id) budget (Usage.ofSummary s)) := by
  have hnone : ∀ v, ¬ e.Measures budget s v := fun v hv => hstate hv.1
  refine filled_inspectedWithin (tells_ofSummary s) (fun v hv => absurd hv (hnone v))
    (fun _ => resources_ofSummary s) (details_ofSummary s) fun i => ?_
  unfold Engine.Inspects Engine.measuring?
  rw [if_neg hstate]
  simp

/-- A container whose statistics use up the budget keeps what the list
tells. -/
theorem filled_of_late (hstate : State.ofWord s.state = .running)
    (hlate : (e.statistics s.id).within? budget = none) :
    Filled e budget s (Usage.ofSummary s) := by
  have hover := Answer.within?_eq_none_iff.mp hlate
  have hnone : ∀ v, ¬ e.Measures budget s v := by
    rintro v ⟨-, millis, hle, ha⟩
    exact absurd (hover millis (by rw [ha]; rfl)) (Nat.not_lt_of_le hle)
  refine ⟨tells_ofSummary s, fun v hv => absurd hv (hnone v), fun _ => resources_ofSummary s,
    fun i hi => ?_, fun _ => details_ofSummary s⟩
  obtain ⟨before, hbefore, hle, -⟩ := hi
  unfold Engine.measuring? at hbefore
  rw [if_pos hstate] at hbefore
  exact absurd (hover before hbefore) (Nat.not_lt_of_le hle)

/-- A container whose statistics come in time, or fail in time, has the rest
of the budget for its inspection. -/
theorem filled_of_measured (hstate : State.ofWord s.state = .running) {value : Option Statistics}
    {left : Nat} (hin : (e.statistics s.id).within? budget = some (value, left)) :
    Filled e budget s (inspectedWithin (e.inspection s.id) left
      ((value.map (Usage.ofSummary s).withStatistics).getD (Usage.ofSummary s))) := by
  obtain ⟨millis, hle, ha, rfl⟩ := Answer.within?_eq_some_iff.mp hin
  have hmeasures : ∀ v, e.Measures budget s v ↔ value = some v := by
    intro v
    constructor
    · rintro ⟨-, millis', -, ha'⟩
      cases ha.symm.trans ha'
      rfl
    · rintro rfl
      exact ⟨hstate, millis, hle, ha⟩
  have hleft : ∀ i, e.Inspects budget s i ↔
      (e.inspection s.id).Brings (budget - millis) i := by
    intro i
    unfold Engine.Inspects Engine.measuring?
    rw [if_pos hstate, ha]
    simp [Answer.wait?, hle]
  cases value with
  | none =>
    refine filled_inspectedWithin (tells_ofSummary s) (fun v hv => ?_) (fun _ => resources_ofSummary s)
      (details_ofSummary s) hleft
    cases (hmeasures v).mp hv
  | some v =>
    have hdetails := (details_withStatistics (Usage.ofSummary s) v).trans (details_ofSummary s)
    have hlisted := tells_ofSummary s
    rw [← listed_withStatistics (Usage.ofSummary s) v] at hlisted
    refine filled_inspectedWithin hlisted
      (fun v' hv' => ?_) (fun hnone => ?_) hdetails hleft
    · cases (hmeasures v').mp hv'
      exact tells_withStatistics (Usage.ofSummary s) v
    · exact absurd ((hmeasures v).mpr rfl) (hnone v)

/-- What is known of a container when its budget is over. -/
theorem filled_usage (e : Engine) (budget : Nat) (s : Summary) :
    Filled e budget s (e.usage budget s) := by
  by_cases hstate : State.ofWord s.state = .running
  · cases hin : (e.statistics s.id).within? budget with
    | none =>
      have husage : e.usage budget s = Usage.ofSummary s := by
        simp [Engine.usage, Usage.ofSummary, hstate, hin]
      rw [husage]
      exact filled_of_late hstate hin
    | some answer =>
      obtain ⟨value, left⟩ := answer
      have husage : e.usage budget s = inspectedWithin (e.inspection s.id) left
          ((value.map (Usage.ofSummary s).withStatistics).getD (Usage.ofSummary s)) := by
        have hbase : (Usage.ofSummary s).status = .running := hstate
        simp only [Engine.usage, if_pos hbase, hin, Option.map_some]
        rfl
      rw [husage]
      exact filled_of_measured hstate hin
  · have husage : e.usage budget s
        = inspectedWithin (e.inspection s.id) budget (Usage.ofSummary s) := by
      have hbase : (Usage.ofSummary s).status ≠ .running := hstate
      simp only [Engine.usage, if_neg hbase]
      rfl
    rw [husage]
    exact filled_of_not_running hstate

-- ============================================================= all entries

/-- The milliseconds that each container has if the list took so many. -/
def budgetAfter (millis : Nat) : Nat := min containerBudget (refreshBudget - millis)

theorem usages_of_listed {millis : Nat} {summaries : List Summary}
    (hlist : e.list = .after millis (some summaries)) (hle : millis ≤ refreshBudget) :
    e.usages = summaries.map (e.usage (budgetAfter millis)) := by
  have hin : e.list.within? refreshBudget = some (some summaries, refreshBudget - millis) :=
    Answer.within?_eq_some_iff.mpr ⟨millis, hle, hlist, rfl⟩
  unfold Engine.usages
  rw [hin]
  rfl

theorem usages_of_unlisted (h : ∀ summaries, ¬ e.list.Brings refreshBudget summaries) :
    e.usages = [] := by
  unfold Engine.usages
  split
  · next summaries left hin => exact absurd (Answer.brings_iff.mpr ⟨left, hin⟩) (h summaries)
  · rfl

/-- Whatever an engine answers and however long it takes: a refresh caches
what it publishes. That is nothing where no list comes in time, and else
one entry for each container, in the order of the list. Each entry shows,
figure by figure, what the answers for its own container tell that come in
time, and nothing where they do not (`Filled`). So it is the same wherever
the container is listed with these answers. -/
theorem refresh_fills_each_alone (inventory : Inventory) (engine : Option Engine) :
    let refreshed := inventory.refresh engine
    refreshed.1.cache = refreshed.2 ∧
    ((∀ e, engine = some e → ∀ summaries, ¬ e.list.Brings refreshBudget summaries) →
      refreshed.2 = []) ∧
    ∀ e millis summaries, engine = some e → e.list = .after millis (some summaries) →
      millis ≤ refreshBudget →
      List.Forall₂ (Filled e (budgetAfter millis)) summaries refreshed.2 ∧
      ∀ (other : Inventory) (e' : Engine) (millis' : Nat) (summaries' : List Summary),
        e'.list = .after millis' (some summaries') → millis' ≤ refreshBudget →
        ∀ (i j : Nat) (s : Summary), summaries[i]? = some s → summaries'[j]? = some s →
        (∀ v, e.Measures (budgetAfter millis) s v ↔ e'.Measures (budgetAfter millis') s v) →
        (∀ v, e.Inspects (budgetAfter millis) s v ↔ e'.Inspects (budgetAfter millis') s v) →
          ∃ u, refreshed.2[i]? = some u ∧ (other.refresh (some e')).2[j]? = some u := by
  intro refreshed
  refine ⟨rfl, fun hnone => ?_, ?_⟩
  · cases engine with
    | none => rfl
    | some e => exact usages_of_unlisted (hnone e rfl)
  · rintro e millis summaries rfl hlist hle
    have hpublished : refreshed.2 = summaries.map (e.usage (budgetAfter millis)) :=
      usages_of_listed hlist hle
    refine ⟨?_, fun other e' millis' summaries' hlist' hle' i j s hi hj hmeasures hinspects => ?_⟩
    · rw [hpublished, List.forall₂_map_right_iff, List.forall₂_same]
      exact fun s _ => filled_usage e (budgetAfter millis) s
    · have hpublished' : (other.refresh (some e')).2
          = summaries'.map (e'.usage (budgetAfter millis')) := usages_of_listed hlist' hle'
      refine ⟨e.usage (budgetAfter millis) s, ?_, ?_⟩
      · rw [hpublished, List.getElem?_map, hi, Option.map_some]
      · rw [hpublished', List.getElem?_map, hj, Option.map_some]
        exact congrArg some ((filled_usage e _ s).unique (filled_usage e' _ s) hmeasures
          hinspects).symm

-- ======================================================= a mixed refresh

/-- A container of the list that runs. -/
def runningSummary (id : String) : Summary := { id, state := "running" }

/-- A container of the list that does not run. -/
def exitedSummary (id : String) : Summary := { id, state := "exited" }

/-- An engine with three containers. Of the first the inspection comes too
late, of the second nothing comes, and the third does not run. -/
def mixedEngine : Engine where
  list := .after 100 (some [runningSummary "a", runningSummary "b", exitedSummary "c"])
  statistics id := if id = "b" then .silence else .after 2000 (some { pids := 5 })
  inspection id := .after (if id = "a" then 5000 else 10) (some { restartCount := 3 })

/-- The same engine with the third container alone, and with a list that
takes longer. -/
def loneEngine : Engine :=
  { mixedEngine with list := .after 14000 (some [exitedSummary "c"]) }

theorem ofWord_running (id : String) : State.ofWord (runningSummary id).state = .running := by
  show State.ofWord "running" = .running
  decide +kernel

theorem ofWord_exited (id : String) : State.ofWord (exitedSummary id).state ≠ .running := by
  show State.ofWord "exited" ≠ .running
  decide +kernel

/-- Each container has what came of its answers in time, and the third is
the same without the others. -/
theorem mixed_refresh_fills_each_alone :
    ∃ a b c, (Inventory.refresh {} (some mixedEngine)).2 = [a, b, c] ∧
      a.pids.toNat = 5 ∧ a.details = {} ∧ b.resources = {} ∧ b.details = {} ∧
      c.resources = {} ∧ c.restartCount = 3 ∧ c.ports = [] ∧
      (Inventory.refresh {} (some loneEngine)).2[0]? = some c := by
  obtain ⟨-, -, hlisted⟩ := refresh_fills_each_alone {} (some mixedEngine)
  obtain ⟨hfilled, halone⟩ := hlisted mixedEngine 100 _ rfl rfl (by decide)
  have hinspects : ∀ millis, 10 ≤ budgetAfter millis → ∀ e : Engine,
      e.inspection "c" = .after 10 (some { restartCount := 3 }) → ∀ i,
      (e.Inspects (budgetAfter millis) (exitedSummary "c") i ↔ i = { restartCount := 3 }) := by
    intro millis hmillis e he i
    unfold Engine.Inspects Engine.measuring?
    rw [if_neg (ofWord_exited "c")]
    constructor
    · rintro ⟨-, -, -, n, -, hn⟩
      cases he.symm.trans hn
      rfl
    · rintro rfl
      exact ⟨0, rfl, Nat.zero_le _, 10, hmillis, he⟩
  obtain ⟨u, hu, hlone⟩ := halone {} loneEngine 14000 _ rfl (by decide) 2 0 (exitedSummary "c")
    rfl rfl (fun v => ⟨fun hv => absurd hv.1 (ofWord_exited "c"),
      fun hv => absurd hv.1 (ofWord_exited "c")⟩)
    (fun i => (hinspects 100 (by decide) mixedEngine rfl i).trans
      (hinspects 14000 (by decide) loneEngine rfl i).symm)
  generalize (Inventory.refresh {} (some mixedEngine)).2 = published at hfilled hu ⊢
  obtain _ | ⟨ha, _ | ⟨hb, _ | ⟨hc, hend⟩⟩⟩ := hfilled
  cases hend
  cases hu
  have hmeasured := ha.measured _ ⟨ofWord_running "a", 2000, by decide, rfl⟩
  have hinspected := hc.inspected _ ((hinspects 100 (by decide) mixedEngine rfl _).mpr rfl)
  refine ⟨_, _, _, rfl, hmeasured.pids, ha.uninspected fun i hi => ?_,
    hb.unmeasured fun v hv => ?_, hb.uninspected fun i hi => ?_,
    hc.unmeasured fun v hv => absurd hv.1 (ofWord_exited "c"), hinspected.restarts,
    hinspected.unbound rfl, hlone⟩
  · obtain ⟨before, hbefore, -, n, hn, heq⟩ := hi
    unfold Engine.measuring? at hbefore
    rw [if_pos (ofWord_running "a")] at hbefore
    cases hbefore
    cases heq
    exact absurd hn (by decide)
  · obtain ⟨-, n, -, heq⟩ := hv
    cases heq
  · obtain ⟨before, hbefore, -⟩ := hi
    unfold Engine.measuring? at hbefore
    rw [if_pos (ofWord_running "b")] at hbefore
    cases hbefore

end HostTelemetry.Container
