/-
What the worker publishes is about those services that the last completed
detection has left with a record.

# The log

What the worker's log may hold is said by an automaton that reads it: a `Phase`
is what the worker is at, and `Follows` says what can happen in it. A detection
that is completed can only be followed by a collection that begins at the same
moment; what is published has to name whom the last detection left with a
record, which the phase remembers (`Log.known_eq`). `Orderly` says the same
without phases.

# The run

Each task takes the log from one idle phase to the next (`InStep.perform`). That
the phase remembers the right names is because neither a collection nor
settings given for a plugin make a record or remove one: `recorded` is the
same until the next detection. A run begins with a detection since the other
timer is not due yet. It may be broken off at any moment, which cannot come
between a detection and the collection after it (`Log.brokenOff`).

Each task serves a timer that was due before the end, and moves it on, so
there is a bound to the tasks that begin before it (`runOn_eq`).
-/
import HostTelemetry.Proofs.Service.Collection
import HostTelemetry.Worker.ServiceLoop

namespace HostTelemetry.Worker

open Http.Dialogue (Server)
open Service (Detector Entry Member asked_eq_recorded pluginIds_entries_collect)

-- ========================================================== orderly logs

/-- The plugins that had a record after the last detection in a log. -/
def lastDetected? (log : List Happening) : Option (List String) :=
  log.reverse.findSome? fun
    | .detected _ names => some names
    | _ => none

/-- A log, the earliest first, that begins no collection but to ask those whom
the last detection has left with a record, and publishes nothing but what is
about them. A completed detection is followed by a collection at once, and
nothing comes before the collection is done. -/
structure Orderly (log : List Happening) : Prop where
  asked : ∀ before m names after, log = before ++ .collecting m names :: after →
    lastDetected? before = some names
  published : ∀ before m entries after, log = before ++ .published m entries :: after →
    lastDetected? before = some (entries.map (·.pluginId))
  followed : ∀ before m names after, log = before ++ .detected m names :: after →
    ∃ later, after = .collecting m names :: later
  undisturbed : ∀ before m names after, log = before ++ .collecting m names :: after →
    after = [] ∨ ∃ done entries later, after = .published done entries :: later

-- ================================================================= phases

/-- What the worker is at, and who had a record after the last detection. -/
inductive Phase where
  | idle (known : Option (List String))
  | searching (known : Option (List String))
  /-- A detection is completed. -/
  | found (moment : Nat) (names : List String)
  | asking (names : List String)

/-- Who had a record after the last detection. -/
def Phase.known : Phase → Option (List String)
  | idle known | searching known => known
  | found _ names | asking names => some names

/-- What can happen in a phase, and the phase after it. -/
inductive Follows : Phase → Happening → Phase → Prop
  | detecting (known : Option (List String)) (m : Nat) (plugins : List String) :
      Follows (.idle known) (.detecting m plugins) (.searching known)
  | detected (known : Option (List String)) (m : Nat) (names : List String) :
      Follows (.searching known) (.detected m names) (.found m names)
  | atOnce (m : Nat) (names : List String) :
      Follows (.found m names) (.collecting m names) (.asking names)
  | between (m : Nat) (names : List String) :
      Follows (.idle (some names)) (.collecting m names) (.asking names)
  | published {names : List String} (m : Nat) (entries : List Entry)
      (h : entries.map (·.pluginId) = names) :
      Follows (.asking names) (.published m entries) (.idle (some names))

/-- A log, the latest first, that leads to a phase by some moment. -/
inductive Log : List Happening → Nat → Phase → Prop
  | empty (now : Nat) : Log [] now (.idle none)
  | next {past : List Happening} {before now : Nat} {s u : Phase} {x : Happening}
      (h : Log past before s) (hnext : Follows s x u) (hbefore : before ≤ x.moment)
      (hnow : x.moment ≤ now) : Log (x :: past) now u

namespace Log

variable {past : List Happening} {now : Nat} {s : Phase}

theorem mono (h : Log past now s) {later : Nat} (hle : now ≤ later) : Log past later s := by
  cases h with
  | empty => exact .empty later
  | next h hnext hbefore hnow => exact .next h hnext hbefore (Nat.le_trans hnow hle)

theorem moment_le (h : Log past now s) : ∀ x ∈ past, x.moment ≤ now := by
  induction h with
  | empty => exact fun x hx => absurd hx List.not_mem_nil
  | next _ _ hbefore hnow ih =>
    intro x hx
    rcases List.mem_cons.mp hx with rfl | hx
    · exact hnow
    · exact Nat.le_trans (ih x hx) (Nat.le_trans hbefore hnow)

/-- The phase remembers the last detection. -/
theorem known_eq (h : Log past now s) : lastDetected? past.reverse = s.known := by
  unfold lastDetected?
  rw [List.reverse_reverse]
  induction h with
  | empty => rfl
  | next _ hnext _ _ ih => cases hnext <;> first | exact ih | rfl

/-- What follows a happening in a log, if it is not the last, can follow it. -/
theorem split {newer older : List Happening} {x : Happening}
    (h : Log (newer ++ x :: older) now s) :
    ∃ before u v, Log older before u ∧ Follows u x v ∧
      (newer = [] ∧ v = s ∨ ∃ newest y w, newer = newest ++ [y] ∧ Follows v y w) := by
  induction newer generalizing now s with
  | nil =>
    cases h with
    | next h hnext => exact ⟨_, _, _, h, hnext, .inl ⟨rfl, rfl⟩⟩
  | cons z newer ih =>
    cases h with
    | next h hnext =>
      obtain ⟨before, u, v, holder, hx, ⟨rfl, rfl⟩ | ⟨newest, y, w, rfl, hy⟩⟩ := ih h
      · exact ⟨before, u, v, holder, hx, .inr ⟨[], z, _, rfl, hnext⟩⟩
      · exact ⟨before, u, v, holder, hx, .inr ⟨z :: newest, y, w, rfl, hy⟩⟩

/-- The same of a log that is read from its beginning. -/
theorem reading {before after : List Happening} {x : Happening} (h : Log past now s)
    (heq : past.reverse = before ++ x :: after) :
    ∃ u v, lastDetected? before = u.known ∧ Follows u x v ∧
      (after = [] ∧ v = s ∨ ∃ y w later, after = y :: later ∧ Follows v y w) := by
  have hpast : past = after.reverse ++ x :: before.reverse := by
    rw [← List.reverse_reverse past, heq, List.reverse_append, List.reverse_cons,
      List.append_assoc, List.singleton_append]
  obtain ⟨t, u, v, hbefore, hx, hafter⟩ := (hpast ▸ h).split
  have hknown := hbefore.known_eq
  rw [List.reverse_reverse] at hknown
  refine ⟨u, v, hknown, hx, ?_⟩
  rcases hafter with ⟨hnil, hv⟩ | ⟨newest, y, w, hnewer, hy⟩
  · exact .inl ⟨List.reverse_eq_nil_iff.mp hnil, hv⟩
  · refine .inr ⟨y, w, newest.reverse, ?_, hy⟩
    rw [← List.reverse_reverse after, hnewer, List.reverse_append]
    rfl

/-- A log that is not broken off after a detection is orderly. -/
theorem orderly (h : Log past now s) (hs : ∀ m names, s ≠ .found m names) :
    Orderly past.reverse where
  asked before m names after heq := by
    obtain ⟨u, v, hknown, hx, -⟩ := h.reading heq
    rw [hknown]
    cases hx <;> rfl
  published before m entries after heq := by
    obtain ⟨u, v, hknown, hx, -⟩ := h.reading heq
    rw [hknown]
    cases hx with
    | published m entries hids => exact congrArg some hids.symm
  followed before m names after heq := by
    obtain ⟨u, v, -, hx, ⟨-, hv⟩ | ⟨y, w, later, rfl, hy⟩⟩ := h.reading heq
    · cases hx
      exact absurd hv.symm (hs m names)
    · cases hx
      cases hy
      exact ⟨later, rfl⟩
  undisturbed before m names after heq := by
    obtain ⟨u, v, -, hx, ⟨hnil, -⟩ | ⟨y, w, later, rfl, hy⟩⟩ := h.reading heq
    · exact .inl hnil
    · cases hx <;> cases hy <;> exact .inr ⟨_, _, later, rfl⟩

theorem mem_of_found {m : Nat} {names : List String} (h : Log past now (.found m names)) :
    Happening.detected m names ∈ past := by
  cases h with
  | next _ hlast =>
    cases hlast
    exact List.mem_cons_self

/-- A log may be broken off at a moment, and still no detection is the last:
the collection after it begins at that very moment. -/
theorem brokenOff (h : Log past now s) (stop : Nat) :
    ∃ t u, Log (past.filter (·.moment ≤ stop)) t u ∧ (u = s ∨ ∀ m names, u ≠ .found m names) := by
  induction h with
  | empty now => exact ⟨now, _, .empty now, .inl rfl⟩
  | @next past before now s u x h hnext hbefore hnow ih =>
    by_cases hx : x.moment ≤ stop
    · have hall : (x :: past).filter (·.moment ≤ stop) = x :: past := by
        refine List.filter_eq_self.mpr fun y hy => decide_eq_true ?_
        rcases List.mem_cons.mp hy with rfl | hy
        · exact hx
        · exact Nat.le_trans (h.moment_le y hy) (Nat.le_trans hbefore hx)
      rw [hall]
      exact ⟨now, u, .next h hnext hbefore hnow, .inl rfl⟩
    · rw [List.filter_cons_of_neg (by simpa using hx)]
      obtain ⟨t, w, hlog, hw⟩ := ih
      refine ⟨t, w, hlog, .inr fun m names hfound => ?_⟩
      rcases hw with rfl | hw
      · -- then `x` begins the collection, at the moment of that detection
        subst hfound
        have hm : m ≤ stop := of_decide_eq_true (List.mem_filter.mp hlog.mem_of_found).2
        cases hnext
        exact hx hm
      · exact hw m names hfound

end Log

-- ================================================================= tasks

namespace ServiceLoop

variable {σ : Type} (l : ServiceLoop σ) (srv : Server σ) (c : Circumstances σ)

theorem recorded_collect : (l.collect srv c).detector.recorded = l.detector.recorded :=
  (Detector.recorded_collect ..).trans (Detector.recorded_configureAll ..)

theorem members_collect :
    (l.collect srv c).detector.members.map Member.id = l.detector.members.map Member.id :=
  Detector.members_collect ..

theorem members_perform (task : Task) :
    (l.perform srv c task).detector.members.map Member.id = l.detector.members.map Member.id := by
  cases task with
  | detect => exact (members_collect ..).trans (Detector.members_detect ..)
  | collect => exact members_collect ..

variable {l}

theorem log_detect {known : Option (List String)} (h : Log l.past l.now (.idle known)) :
    Log (l.detect srv c).past (l.detect srv c).now
      (.found (l.detect srv c).now (l.detect srv c).detector.recorded) := by
  have hdone : l.now ≤ (l.detect srv c).now :=
    Nat.le_trans (Nat.le_add_right _ _) (Nat.le_add_right _ _)
  have hbegun := h.next (.detecting known l.now (l.detector.members.map Member.id))
    (Nat.le_refl _) (Nat.le_refl _)
  rw [← asked_eq_recorded]
  exact hbegun.next (.detected known _ _) hdone (Nat.le_refl _)

/-- A collection may begin right after a detection, and in between. -/
theorem log_collect {s : Phase} (h : Log l.past l.now s)
    (hs : Follows s (.collecting l.now l.detector.recorded) (.asking l.detector.recorded)) :
    Log (l.collect srv c).past (l.collect srv c).now
      (.idle (some (l.collect srv c).detector.recorded)) := by
  have hbegins : Follows s (.collecting l.now (l.detector.configureAll (c.before l)).asked)
      (.asking l.detector.recorded) := by
    rw [asked_eq_recorded, Detector.recorded_configureAll]
    exact hs
  have hdone : l.now ≤ (l.collect srv c).now := Nat.le_add_right _ _
  have hids : (l.collect srv c).detector.entries.map (·.pluginId) = l.detector.recorded :=
    (pluginIds_entries_collect ..).trans (Detector.recorded_configureAll ..)
  have hbegun := h.next hbegins (Nat.le_refl _) (Nat.le_refl _)
  rw [recorded_collect]
  exact hbegun.next (.published _ _ hids) hdone (Nat.le_refl _)

theorem le_nextMoment (l : ServiceLoop σ) : l.now ≤ l.nextMoment := Nat.le_max_left _ _

/-- The worker between two tasks: it is idle, whom the last detection has left
with a record still has one, and the last it did was to publish its entries. -/
structure InStep (l : ServiceLoop σ) : Prop where
  log : Log l.past l.now (.idle (some l.detector.recorded))
  published : ∃ m earlier, l.past = .published m l.detector.entries :: earlier

theorem inStep_perform_detect {known : Option (List String)} (h : Log l.past l.now (.idle known)) :
    (l.perform srv c .detect).InStep where
  log := log_collect srv c (log_detect srv c (h.mono l.le_nextMoment)) (.atOnce _ _)
  published := ⟨_, _, rfl⟩

/-- A task keeps the worker in step. -/
theorem InStep.perform (h : l.InStep) (task : Task) : (l.perform srv c task).InStep := by
  cases task with
  | detect => exact inStep_perform_detect srv c h.log
  | collect => exact ⟨log_collect srv c (h.log.mono l.le_nextMoment) (.between _ _), _, _, rfl⟩

theorem InStep.runOn (h : l.InStep) (stop tasks : Nat) : (l.runOn srv c stop tasks).InStep := by
  induction tasks generalizing l with
  | zero => exact h
  | succ tasks ih =>
    unfold ServiceLoop.runOn
    split
    · exact ih (h.perform srv c _)
    · exact h

theorem members_runOn (l : ServiceLoop σ) (stop tasks : Nat) :
    (l.runOn srv c stop tasks).detector.members.map Member.id
      = l.detector.members.map Member.id := by
  induction tasks generalizing l with
  | zero => rfl
  | succ tasks ih =>
    unfold ServiceLoop.runOn
    split
    · exact (ih _).trans (members_perform ..)
    · rfl

-- ================================================================== runs

/-- The first task is a detection, since the other timer is not due yet. -/
theorem runOn_start (detector : Detector) (server : σ) (detectPeriod : Nat) {collectPeriod : Nat}
    (hc : 0 < collectPeriod) (stop tasks : Nat) :
    let l := start detector server detectPeriod collectPeriod
    l.runOn srv c stop (tasks + 1) = (l.perform srv c .detect).runOn srv c stop tasks := by
  intro l
  have hmoment : l.nextMoment = 0 := by
    show max 0 (min 0 collectPeriod) = 0
    omega
  have hdetect : l.isReady .detect = true :=
    decide_eq_true (show 0 ≤ l.nextMoment from Nat.zero_le _)
  have hcollect : ¬ l.isReady .collect = true := by
    intro hready
    have hdue : collectPeriod ≤ l.nextMoment := of_decide_eq_true hready
    omega
  have htask : l.nextTask c = .detect := by
    rw [nextTask, if_pos hdetect, if_neg hcollect]
  rw [ServiceLoop.runOn, hmoment, if_pos (Nat.zero_le _), htask]

/-- After its first task the worker is in step. -/
theorem inStep_runOn_start (detector : Detector) (server : σ) (detectPeriod : Nat)
    {collectPeriod : Nat} (hc : 0 < collectPeriod) (stop tasks : Nat) :
    ((start detector server detectPeriod collectPeriod).runOn srv c stop (tasks + 1)).InStep := by
  have hempty : Log (start detector server detectPeriod collectPeriod).past 0 (.idle none) :=
    .empty 0
  rw [runOn_start srv c detector server detectPeriod hc]
  exact InStep.runOn srv c (inStep_perform_detect srv c hempty) stop tasks

-- ============================================== as many tasks as there are

theorem lt_due_served {t : Timer} (hperiod : 0 < t.period) {now : Nat} (hdue : t.due ≤ now) :
    t.due < (t.served now).due := by
  have hmod := Nat.mod_lt (now - t.due) hperiod
  unfold Timer.served
  dsimp only
  split <;> omega

theorem isReady_nextTask (l : ServiceLoop σ) : l.isReady (l.nextTask c) = true := by
  unfold nextTask
  split
  · next hdetect =>
    split
    · next hcollect => cases c.first l <;> assumption
    · exact hdetect
  · next hdetect =>
    have hlate : ¬ l.detectTimer.due ≤ l.nextMoment := by simpa [isReady] using hdetect
    refine decide_eq_true ?_
    unfold nextMoment at hlate ⊢
    omega

/-- How far the timers are from the end, taken together. -/
def remaining (stop : Nat) (l : ServiceLoop σ) : Nat :=
  (stop + 1 - l.detectTimer.due) + (stop + 1 - l.collectTimer.due)

/-- Both timers go on. -/
structure Ticking (l : ServiceLoop σ) : Prop where
  detect : 0 < l.detectTimer.period
  collect : 0 < l.collectTimer.period

theorem Ticking.perform (h : l.Ticking) (task : Task) : (l.perform srv c task).Ticking := by
  cases task with
  | detect => exact ⟨h.detect, h.collect⟩
  | collect => exact ⟨h.detect, h.collect⟩

/-- A task that begins before the end brings a timer closer to it. -/
theorem remaining_perform_lt (h : l.Ticking) {stop : Nat} (hstop : l.nextMoment ≤ stop) :
    (l.perform srv c (l.nextTask c)).remaining stop < l.remaining stop := by
  have hready := isReady_nextTask c l
  cases htask : l.nextTask c with
  | detect =>
    rw [htask] at hready
    have hdue : l.detectTimer.due ≤ l.nextMoment := of_decide_eq_true hready
    have hlater := lt_due_served h.detect hdue
    show (stop + 1 - (l.detectTimer.served l.nextMoment).due) + (stop + 1 - l.collectTimer.due)
      < (stop + 1 - l.detectTimer.due) + (stop + 1 - l.collectTimer.due)
    omega
  | collect =>
    rw [htask] at hready
    have hdue : l.collectTimer.due ≤ l.nextMoment := of_decide_eq_true hready
    have hlater := lt_due_served h.collect hdue
    show (stop + 1 - l.detectTimer.due) + (stop + 1 - (l.collectTimer.served l.nextMoment).due)
      < (stop + 1 - l.detectTimer.due) + (stop + 1 - l.collectTimer.due)
    omega

theorem runOn_of_lt {stop : Nat} (h : stop < l.nextMoment) (tasks : Nat) :
    l.runOn srv c stop tasks = l := by
  cases tasks with
  | zero => rfl
  | succ tasks => rw [runOn, if_neg (Nat.not_le_of_lt h)]

/-- As many tasks as there can be do all that begins before the end. -/
theorem runOn_eq (h : l.Ticking) {stop tasks tasks' : Nat} (htasks : l.remaining stop ≤ tasks)
    (htasks' : l.remaining stop ≤ tasks') :
    l.runOn srv c stop tasks = l.runOn srv c stop tasks' := by
  induction tasks generalizing l tasks' with
  | zero =>
    have hover : stop < l.nextMoment := by
      refine Nat.lt_of_not_le fun hstop => ?_
      have hlt := remaining_perform_lt srv c h hstop
      omega
    rw [runOn_of_lt srv c hover, runOn_of_lt srv c hover]
  | succ tasks ih =>
    by_cases hstop : l.nextMoment ≤ stop
    · have hlt := remaining_perform_lt srv c h hstop
      cases tasks' with
      | zero => omega
      | succ tasks' =>
        rw [runOn, runOn, if_pos hstop, if_pos hstop]
        exact ih (h.perform srv c _) (by omega) (by omega)
    · have hover : stop < l.nextMoment := Nat.lt_of_not_le hstop
      rw [runOn_of_lt srv c hover, runOn_of_lt srv c hover]

end ServiceLoop

-- ========================================================== publications

/-- Whatever the plugins, the servers, the durations, the settings given by
others and the choices between two timers: up to any end, and after any number
of tasks, the log of the worker is orderly, so what is published matches the
last completed detection. Each task ends with the publication of the entries
that the worker then has, and the names in the log are those of the plugins that
have a record, in the order of the plugins. A run up to an end is as long as it
can be. -/
theorem publications_match_last_detection {σ : Type} (detector : Detector) (server : σ)
    (srv : Server σ) (c : Circumstances σ) (detectPeriod collectPeriod : Nat)
    (hdetect : 0 < detectPeriod) (hcollect : 0 < collectPeriod) (stop : Nat) :
    let start := ServiceLoop.start detector server detectPeriod collectPeriod
    let after tasks := start.runOn srv c stop tasks
    Orderly (start.happenings srv c stop) ∧
      (∀ tasks, Orderly (after tasks).past.reverse ∧
        (∃ m earlier, (after (tasks + 1)).past
          = .published m (after (tasks + 1)).detector.entries :: earlier) ∧
        (after (tasks + 1)).detector.members.map Member.id = detector.members.map Member.id ∧
        lastDetected? (after (tasks + 1)).past.reverse
          = some ((detector.members.map Member.id).filter fun id =>
              ((after (tasks + 1)).detector.registry.records.get? id).isSome)) ∧
      ∀ tasks, 2 * stop + 2 ≤ tasks → after tasks = after (2 * stop + 2) := by
  intro start after
  have hstep : ∀ tasks, (after (tasks + 1)).InStep :=
    ServiceLoop.inStep_runOn_start srv c detector server detectPeriod hcollect stop
  have hmembers : ∀ tasks,
      (after tasks).detector.members.map Member.id = detector.members.map Member.id :=
    ServiceLoop.members_runOn srv c start stop
  refine ⟨?_, fun tasks => ⟨?_, (hstep tasks).published, hmembers (tasks + 1), ?_⟩,
    fun tasks htasks => ?_⟩
  · obtain ⟨t, u, hcut, hu⟩ := (hstep (2 * stop + 1)).log.brokenOff stop
    refine hcut.orderly fun m names hfound => ?_
    rcases hu with rfl | hu
    · cases hfound
    · exact hu m names hfound
  · cases tasks with
    | zero => exact (Log.empty 0).orderly fun m names => Phase.noConfusion
    | succ tasks => exact (hstep tasks).log.orderly fun m names => Phase.noConfusion
  · rw [← hmembers (tasks + 1)]
    exact (hstep tasks).log.known_eq
  · have hremaining : start.remaining stop ≤ 2 * stop + 2 := by
      unfold ServiceLoop.remaining
      omega
    have hticking : start.Ticking := ⟨hdetect, hcollect⟩
    exact ServiceLoop.runOn_eq srv c hticking (Nat.le_trans hremaining htasks) hremaining

/-- What a log publishes: the moments, and whom it is about. -/
def publications (log : List Happening) : List (Nat × List String) :=
  log.filterMap fun
    | .published m entries => some (m, entries.map (·.pluginId))
    | _ => none

/-- Two plugins, of which one finds its service where no containers are and the
other where some are. -/
def takingTurns : Detector where
  members := [
    { plugin := { identity := ⟨"bare", "Bare", ""⟩, collect := fun _ => .done (.ok {})
                  detect := fun e => .done (if e.containers.isEmpty then some {} else none) } },
    { plugin := { identity := ⟨"boxed", "Boxed", ""⟩, collect := fun _ => .done (.ok {})
                  detect := fun e => .done (if e.containers.isEmpty then none else some {}) } }]

/-- A container comes up after the first detection; and who has the choice
collects first. -/
def laterBoxed : Circumstances Unit where
  environment l := if l.past.isEmpty then {} else { containers := [default] }
  first _ := .collect

/-- When both timers are due a last list is published of what was found at the
start. Then follows a detection, and the next list is of what it found. -/
theorem publications_follow_container :
    0 < 300 ∧ 0 < 100 ∧
      let start := ServiceLoop.start takingTurns () 300 100
      let log := start.happenings .unreachable laterBoxed 300
      Orderly log ∧
        publications log = [(0, ["bare"]), (100, ["bare"]), (200, ["bare"]), (300, ["bare"]),
          (300, ["boxed"])] ∧
        lastDetected? log = some ["boxed"] := by
  have horderly := (publications_match_last_detection takingTurns () .unreachable laterBoxed
    300 100 (by decide) (by decide) 300).1
  exact ⟨by decide, by decide, horderly, by decide +kernel, by decide +kernel⟩

end HostTelemetry.Worker
