/-
What the registry knows of one plugin, as a state of its own: the plugin's
record and the plugin's settings.

# One plugin at a time

Whatever is done to the registry is an `Occasion` of one plugin: a setting
given for it, the finding of a detection, the outcome of a collection.
`knowledge_take` says that an occasion of one plugin changes what is known
of that plugin, in a way that depends on nothing else in the registry, and
leaves what is known of the others. So what is known of a plugin after any
number of occasions is a fold over those of the plugin alone
(`knowledge_takeAll`), and the other modules never open the registry.
-/
import HostTelemetry.Service.Registry

namespace HostTelemetry.Service

-- ============================================================= occasions

/-- What can happen to a plugin. -/
inductive Occasion where
  | configured (key value : String)
  | detected (f : Finding)
  | collected (o : Outcome)

/-- Whether a deadline was missed before anything was found out. -/
def Occasion.isMiss : Occasion → Bool
  | .detected .late => true
  | _ => false

/-- The occasions of one plugin. -/
def occasionsOf (id : String) (events : List (String × Occasion)) : List Occasion :=
  events.filterMap fun e => if e.1 = id then some e.2 else none

theorem occasionsOf_cons (id : String) (e : String × Occasion) (rest : List (String × Occasion)) :
    occasionsOf id (e :: rest)
      = if e.1 = id then e.2 :: occasionsOf id rest else occasionsOf id rest := by
  by_cases h : e.1 = id
  · simp [occasionsOf, h]
  · simp [occasionsOf, h]

theorem mem_occasionsOf {id : String} {o : Occasion} {events : List (String × Occasion)} :
    o ∈ occasionsOf id events ↔ (id, o) ∈ events := by
  simp only [occasionsOf, List.mem_filterMap]
  constructor
  · rintro ⟨⟨plugin, o'⟩, hmem, h⟩
    by_cases hid : plugin = id
    · subst hid
      simp only [if_true, Option.some.injEq] at h
      exact h ▸ hmem
    · simp [hid] at h
  · intro h
    exact ⟨(id, o), h, by simp⟩

-- ============================================================= knowledge

/-- What is known of one plugin: the record of its service and its settings. -/
structure Knowledge where
  record : Option Record := none
  settings : Dict String String := ∅

/-- The record that a found service gets. -/
def Knowledge.recordFor (k : Knowledge) (r : Record) : Record :=
  let r := match k.record with
    | some old => r.continuing old
    | none => r
  r.withSettings k.settings

/-- The version that an outcome tells. -/
def versionIn? : Outcome → Option String
  | .ok report => report.version
  | .error _ => none

/-- What an occasion makes of what is known. -/
def Knowledge.after (k : Knowledge) : Occasion → Knowledge
  | .configured key value =>
    { record := k.record.map fun r => { r with notes := r.notes.insert key value }
      settings := k.settings.insert key value }
  | .detected (.found r) => { k with record := some (k.recordFor r) }
  | .detected .absent => { k with record := none }
  | .detected .late => k
  | .collected o =>
    { k with record := match versionIn? o with
        | some version => k.record.map (·.learn version)
        | none => k.record }

/-- A missed deadline leaves what is known. -/
theorem Knowledge.foldl_after_filter (k : Knowledge) (h : List Occasion) :
    (h.filter (!·.isMiss)).foldl after k = h.foldl after k := by
  induction h generalizing k with
  | nil => rfl
  | cons o rest ih =>
    cases hmiss : o.isMiss with
    | false =>
      rw [List.filter_cons_of_pos (by simp [hmiss]), List.foldl_cons, List.foldl_cons]
      exact ih (k.after o)
    | true =>
      have hlate : o = .detected .late := by
        unfold Occasion.isMiss at hmiss
        split at hmiss
        · rfl
        · cases hmiss
      subst hlate
      rw [List.filter_cons_of_neg (by simp [hmiss]), List.foldl_cons]
      exact ih k

-- ============================================================== registry

namespace Registry

/-- What the registry knows of one plugin. -/
def knowledge (g : Registry) (id : String) : Knowledge where
  record := g.records.get? id
  settings := g.settingsOf id

@[simp] theorem knowledge_record (g : Registry) (id : String) :
    (g.knowledge id).record = g.records.get? id := rfl

/-- Takes over an occasion of a plugin. -/
def take (g : Registry) (plugin : String) : Occasion → Registry
  | .configured key value => g.configure ⟨plugin, key, value⟩
  | .detected f => g.settle plugin f
  | .collected o => g.learn plugin o

/-- Takes over occasions, one after the other. -/
def takeAll (g : Registry) (events : List (String × Occasion)) : Registry :=
  events.foldl (fun g e => g.take e.1 e.2) g

theorem takeAll_append (g : Registry) (l m : List (String × Occasion)) :
    g.takeAll (l ++ m) = (g.takeAll l).takeAll m :=
  List.foldl_append

theorem knowledge_configure (g : Registry) (s : Setting) (id : String) :
    (g.configure s).knowledge id
      = if s.plugin = id then (g.knowledge id).after (.configured s.key s.value)
        else g.knowledge id := by
  by_cases h : s.plugin = id
  · subst h
    rw [if_pos rfl]
    cases hr : g.records.get? s.plugin with
    | none => simp [configure, knowledge, settingsOf, Knowledge.after, hr]
    | some r => simp [configure, knowledge, settingsOf, Knowledge.after, hr]
  · have h' : ¬ id = s.plugin := fun e => h e.symm
    rw [if_neg h]
    cases hr : g.records.get? s.plugin with
    | none => simp [configure, knowledge, settingsOf, hr, h']
    | some r => simp [configure, knowledge, settingsOf, hr, h']

theorem knowledge_settle (g : Registry) (plugin : String) (f : Finding) (id : String) :
    (g.settle plugin f).knowledge id
      = if plugin = id then (g.knowledge id).after (.detected f) else g.knowledge id := by
  by_cases h : plugin = id
  · subst h
    rw [if_pos rfl]
    cases f with
    | found r =>
      have hfor : g.recordFor plugin r = (g.knowledge plugin).recordFor r := rfl
      simp [settle, hfor, knowledge, settingsOf, Knowledge.after]
    | absent => simp [settle, knowledge, settingsOf, Knowledge.after]
    | late => rfl
  · have h' : ¬ id = plugin := fun e => h e.symm
    rw [if_neg h]
    cases f with
    | found r => simp [settle, knowledge, settingsOf, h']
    | absent => simp [settle, knowledge, settingsOf, h']
    | late => rfl

theorem learn_eq (g : Registry) (plugin : String) (o : Outcome) :
    g.learn plugin o = match versionIn? o, g.records.get? plugin with
      | some version, some r =>
        { g with records := g.records.insert plugin (r.learn version) }
      | _, _ => g := by
  cases o with
  | error e => rfl
  | ok report =>
    obtain ⟨status, summary, stats, version⟩ := report
    cases version with
    | none => rfl
    | some version =>
      cases hr : g.records.get? plugin with
      | none => simp [learn, versionIn?, hr]
      | some r => simp [learn, versionIn?, hr]

theorem knowledge_learn (g : Registry) (plugin : String) (o : Outcome) (id : String) :
    (g.learn plugin o).knowledge id
      = if plugin = id then (g.knowledge id).after (.collected o) else g.knowledge id := by
  rw [learn_eq]
  cases hv : versionIn? o with
  | none => simp [knowledge, Knowledge.after, hv]
  | some version =>
    by_cases h : plugin = id
    · subst h
      cases hr : g.records.get? plugin with
      | none => simp [knowledge, Knowledge.after, hv, hr]
      | some r => simp [knowledge, settingsOf, Knowledge.after, hv, hr]
    · have h' : ¬ id = plugin := fun e => h e.symm
      rw [if_neg h]
      cases hr : g.records.get? plugin with
      | none => simp
      | some r => simp [knowledge, settingsOf, h']

/-- An occasion of one plugin changes what is known of it, and no more. -/
theorem knowledge_take (g : Registry) (plugin : String) (o : Occasion) (id : String) :
    (g.take plugin o).knowledge id
      = if plugin = id then (g.knowledge id).after o else g.knowledge id := by
  cases o with
  | configured key value => exact knowledge_configure g ⟨plugin, key, value⟩ id
  | detected f => exact knowledge_settle g plugin f id
  | collected o => exact knowledge_learn g plugin o id

/-- What is known of a plugin is a fold over its own occasions. -/
theorem knowledge_takeAll (g : Registry) (events : List (String × Occasion)) (id : String) :
    (g.takeAll events).knowledge id
      = (occasionsOf id events).foldl Knowledge.after (g.knowledge id) := by
  induction events generalizing g with
  | nil => rfl
  | cons e rest ih =>
    have hstep : g.takeAll (e :: rest) = (g.take e.1 e.2).takeAll rest := rfl
    rw [hstep, ih, knowledge_take, occasionsOf_cons]
    by_cases h : e.1 = id
    · rw [if_pos h, if_pos h]
      rfl
    · rw [if_neg h, if_neg h]

-- ==================================================== the three operations

/-- A setting as an occasion of its plugin. -/
def givenOf (s : Setting) : String × Occasion := (s.plugin, .configured s.key s.value)

/-- A finding as an occasion of its plugin. -/
def foundOf (f : String × Finding) : String × Occasion := (f.1, .detected f.2)

/-- An outcome as an occasion of its plugin. -/
def reportedOf (o : Target × Outcome) : String × Occasion := (o.1.identity.id, .collected o.2)

theorem configureAll_eq (g : Registry) (settings : List Setting) :
    g.configureAll settings = g.takeAll (settings.map givenOf) := by
  unfold configureAll takeAll
  rw [List.foldl_map]
  rfl

theorem settleAll_eq (g : Registry) (findings : List (String × Finding)) :
    g.settleAll findings = g.takeAll (findings.map foundOf) := by
  unfold settleAll takeAll
  rw [List.foldl_map]
  rfl

theorem knowledge_collected (g : Registry) (outcomes : List (Target × Outcome)) (id : String) :
    (g.collected outcomes).knowledge id = (g.takeAll (outcomes.map reportedOf)).knowledge id := by
  unfold collected takeAll
  rw [List.foldl_map]
  rfl

end Registry

end HostTelemetry.Service
